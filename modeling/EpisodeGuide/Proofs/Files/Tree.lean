import EpisodeGuide.Files.Tree
import Mathlib.Data.List.Basic

/-! # Directories that stay

Putting something where no directory stands leaves every directory, and so every path that leads
through directories only. A directory that was made once need not be made again. -/

namespace EpisodeGuide.Files.Tree

variable {α : Type} {t made : Tree α} {place target source : List String} {path part : String}

/-! ### Putting something at a place -/

theorem node?_put_ne (t : Tree α) (node : Node α) (h : target ≠ place) :
    (t.put place node).node? target = t.node? target := by
  by_cases hroot : target = []
  · simp [node?, hroot]
  · have hboth : (fun e : List String × Node α => !decide (e.1 = place) && decide (e.1 = target)) =
        fun e => decide (e.1 = target) := by
      funext e
      by_cases he : e.1 = target
      · simp [he, h]
      · simp [he]
    simp [node?, put, hroot, Ne.symm h, hboth]

theorem node?_put_self (t : Tree α) (node : Node α) (h : place ≠ []) :
    (t.put place node).node? place = some node := by
  simp [node?, put, h]

theorem put_put (t : Tree α) (node node' : Node α) :
    (t.put place node).put place node' = t.put place node' := by
  simp [put, List.filter_filter]

/-- A place where no directory stands; it is not the root. -/
def Vacant (t : Tree α) (place : List String) : Prop :=
  t.node? place ≠ some .directory

theorem Vacant.ne_root (h : t.Vacant place) : place ≠ [] := by
  rintro rfl
  exact h rfl

theorem Vacant.node?_put (h : t.Vacant place) (node : Node α)
    (hd : t.node? target = some .directory) :
    (t.put place node).node? target = some .directory := by
  have hne : target ≠ place := by
    rintro rfl
    exact h hd
  rw [node?_put_ne t node hne, hd]

theorem isDirectoryAt_iff : t.isDirectoryAt target = true ↔ t.node? target = some .directory := by
  rcases h : t.node? target with _ | _ | _ <;> simp [isDirectoryAt, h]

theorem Vacant.isDirectoryAt_put (h : t.Vacant place) (node : Node α)
    (hd : t.isDirectoryAt target = true) : (t.put place node).isDirectoryAt target = true :=
  isDirectoryAt_iff.mpr (h.node?_put node (isDirectoryAt_iff.mp hd))

/-! ### Paths through directories -/

theorem Vacant.follow_put (h : t.Vacant place) (node : Node α)
    (hf : t.follow source part = .ok target) :
    (t.put place node).follow source part = .ok target := by
  have hd : t.node? source = some .directory := by
    rcases hn : t.node? source with _ | _ | _
    · simp [follow, hn] at hf
    · rfl
    · simp [follow, hn] at hf
  simp only [follow, hd] at hf
  simp only [follow, h.node?_put node hd]
  exact hf

theorem Vacant.foldlM_follow_put (h : t.Vacant place) (node : Node α) {parts : List String}
    (hf : parts.foldlM t.follow source = .ok target) :
    parts.foldlM (t.put place node).follow source = .ok target := by
  induction parts generalizing source with
  | nil => exact hf
  | cons part parts ih =>
      rw [List.foldlM_cons] at hf ⊢
      cases hstep : t.follow source part with
      | error e =>
          rw [hstep] at hf
          cases hf
      | ok next =>
          rw [hstep] at hf
          rw [h.follow_put node hstep]
          exact ih hf

theorem Vacant.locate_put (h : t.Vacant place) (node : Node α)
    (hl : t.locate path = .ok target) : (t.put place node).locate path = .ok target := by
  have hstart : (t.put place node).start path = t.start path := rfl
  by_cases hempty : path.isEmpty
  · simp [locate, hempty] at hl
  · by_cases hnul : path.toList.contains '\x00'
    · rw [locate, if_neg hempty, if_pos hnul] at hl
      cases hl
    · rw [locate, if_neg hempty, if_neg hnul] at hl ⊢
      rw [hstart]
      exact h.foldlM_follow_put node hl

theorem isDirectory_iff :
    t.isDirectory path = true ↔
      ∃ target, t.locate path = .ok target ∧ t.isDirectoryAt target = true := by
  cases h : t.locate path <;> simp [isDirectory, h]

theorem Vacant.isDirectory_put (h : t.Vacant place) (node : Node α)
    (hd : t.isDirectory path = true) : (t.put place node).isDirectory path = true := by
  obtain ⟨target, hlocate, htarget⟩ := isDirectory_iff.mp hd
  exact isDirectory_iff.mpr ⟨target, h.locate_put node hlocate, h.isDirectoryAt_put node htarget⟩

/-! ### Making directories -/

theorem makeDirectory_of_locate (h : t.locate path = .ok target) :
    t.makeDirectory path = match t.node? target with
      | some _ => .error .exists
      | none => .ok (t.put target .directory) := by
  unfold makeDirectory
  rw [h]
  rfl

theorem makeDirectory_of_lost {e : FileFault} (h : t.locate path = .error e) :
    t.makeDirectory path = .error e := by
  unfold makeDirectory
  rw [h]
  rfl

theorem makeDirectory_eq_ok_iff :
    t.makeDirectory path = .ok made ↔
      ∃ target, t.locate path = .ok target ∧ t.node? target = none ∧
        t.put target .directory = made := by
  cases hlocate : t.locate path with
  | error e => simp [makeDirectory_of_lost hlocate]
  | ok target => cases hnode : t.node? target <;> simp [makeDirectory_of_locate hlocate, hnode]

theorem makeDirectory_isDirectory (h : t.makeDirectory path = .ok made) :
    made.isDirectory path = true := by
  obtain ⟨target, hlocate, hnone, rfl⟩ := makeDirectory_eq_ok_iff.mp h
  have hvacant : t.Vacant target := by simp [Vacant, hnone]
  refine isDirectory_iff.mpr ⟨target, hvacant.locate_put .directory hlocate, ?_⟩
  exact isDirectoryAt_iff.mpr (node?_put_self t .directory hvacant.ne_root)

theorem ensureDirectory_isDirectory (h : t.ensureDirectory path = .ok made) :
    made.isDirectory path = true := by
  unfold ensureDirectory at h
  split at h
  · next made' hmake =>
      obtain rfl : made' = made := Except.ok.inj h
      exact makeDirectory_isDirectory hmake
  · split at h
    · next hd =>
        obtain rfl : t = made := Except.ok.inj h
        exact hd
    · cases h

theorem ensureDirectory_of_isDirectory (h : t.isDirectory path = true) :
    t.ensureDirectory path = .ok t := by
  obtain ⟨target, hlocate, htarget⟩ := isDirectory_iff.mp h
  simp [ensureDirectory, makeDirectory_of_locate hlocate, isDirectoryAt_iff.mp htarget, h]

theorem chain_succ (steps : ℕ) (h : path ≠ "") :
    ∃ parents, chain (steps + 1) path = path :: parents := by
  simp [chain, h]

theorem createDirectories_isDirectory (hpath : path ≠ "")
    (h : t.createDirectories path = .ok made) : made.isDirectory path = true := by
  obtain ⟨parents, hchain⟩ := chain_succ path.length hpath
  rw [createDirectories, hchain, ensureChain] at h
  split at h
  · -- The parents come first, and then the directory itself.
    cases hparents : t.ensureChain parents with
    | error e =>
        rw [hparents] at h
        cases h
    | ok made' =>
        rw [hparents] at h
        exact ensureDirectory_isDirectory h
  · exact ensureDirectory_isDirectory h

theorem createDirectories_of_isDirectory (hpath : path ≠ "") (h : t.isDirectory path = true) :
    t.createDirectories path = .ok t := by
  obtain ⟨parents, hchain⟩ := chain_succ path.length hpath
  simp [createDirectories, hchain, ensureChain, ensureDirectory_of_isDirectory h]

end EpisodeGuide.Files.Tree
