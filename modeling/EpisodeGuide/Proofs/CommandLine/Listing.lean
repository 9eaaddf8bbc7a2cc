import EpisodeGuide.CommandLine.Run
import EpisodeGuide.Proofs.Episode.Record

/-! # Listings as data

What the command line prints as data is read back as the list that the catalog answered with. A run
that does not get as far as its catalog fails. -/

namespace EpisodeGuide.CommandLine

variable {σ : Type} {send : Http.Transport σ} {i : Invocation} {w : World σ}

/-- The settings of an invocation load, and the catalog for them is set up. -/
def Opens (i : Invocation) (w : World σ) (config : Config) (library : Library (Session σ)) : Prop :=
  loadConfig i w = .ok config ∧
    (Library.ofConfig config w.surroundings w.disk w.link).1 = .ok library

/-- With a catalog an invocation does its command. -/
theorem runInvocation_of_opens {config : Config} {library : Library (Session σ)}
    (h : Opens i w config library) :
    runInvocation send i w =
      ((perform send w.clock library i.command).1, (perform send w.clock library i.command).2.disk,
        (perform send w.clock library i.command).2.source.link) := by
  obtain ⟨hconfig, hlibrary⟩ := h
  rcases hset : Library.ofConfig config w.surroundings w.disk w.link with ⟨result, disk⟩
  obtain rfl : result = .ok library := by simpa [hset] using hlibrary
  simp only [runInvocation, hconfig, hset]

theorem runInvocation_of_not_opens (h : ¬ ∃ config library, Opens i w config library) :
    (runInvocation send i w).1.exitCode = 1 ∧ (runInvocation send i w).1.output = "" := by
  cases hconfig : loadConfig i w with
  | error e => simp [runInvocation, hconfig, Report.failure]
  | ok config =>
      rcases hset : Library.ofConfig config w.surroundings w.disk w.link with ⟨_ | library, disk⟩
      · simp [runInvocation, hconfig, hset, Report.failure]
      · exact (h ⟨config, library, hconfig, by rw [hset]⟩).elim

/-- A listing that was asked for as data was answered by the catalog, and is what it answered. -/
theorem perform_episodes_json {clock : Int} {library : Library (Session σ)} {series : String}
    {refresh : Bool}
    (h : (perform send clock library (.episodes series refresh true)).1.exitCode = 0) :
    ∃ found,
      (library.run (Catalog.get (Session.source send clock) clock series refresh)).1 =
        some found ∧
      (perform send clock library (.episodes series refresh true)).1.output =
        jsonListing found := by
  rcases hget : library.run (Catalog.get (Session.source send clock) clock series refresh)
    with ⟨_ | found, library'⟩
  · simp [perform, hget, Report.failure] at h
  · exact ⟨found, rfl, by simp [perform, hget, Report.success]⟩

/-- Listings are read back from their texts: from the compact one, from the pretty one, and from
all that a successful run prints when it is asked for data. -/
structure ReadBackSpec (send : Http.Transport σ) : Prop where
  compact : ∀ episodes, Episode.listOfText? (Episode.listValue episodes).compactText = some episodes
  pretty : ∀ episodes, Episode.listOfText? (Episode.listValue episodes).prettyText = some episodes
  printed : ∀ arguments w i series refresh, read arguments = .ok i →
    i.command = .episodes series refresh true → (run send arguments w).1.exitCode = 0 →
    ∃ config library found, Opens i w config library ∧
      (library.run (Catalog.get (Session.source send w.clock) w.clock series refresh)).1 =
        some found ∧
      Episode.listOfText? (run send arguments w).1.output = some found

/-- Over any transport, every listing is read back from what is printed. -/
theorem run_readBackSpec (send : Http.Transport σ) : ReadBackSpec send where
  compact := fun episodes =>
    Episode.listOfText?_of_document (Episode.whole_listValue episodes).ofText?_compactText
  pretty := fun episodes =>
    Episode.listOfText?_of_document (Episode.whole_listValue episodes).ofText?_prettyText.1
  printed := by
    intro arguments w i series refresh hread hcommand hexit
    simp only [run, hread] at hexit ⊢
    by_cases hopens : ∃ config library, Opens i w config library
    · obtain ⟨config, library, hopens⟩ := hopens
      rw [runInvocation_of_opens hopens, hcommand] at hexit ⊢
      obtain ⟨found, hfound, houtput⟩ := perform_episodes_json hexit
      refine ⟨config, library, found, hopens, hfound, ?_⟩
      rw [houtput]
      exact Episode.listOfText?_of_document (Episode.whole_listValue found).ofText?_prettyText.2
    · rw [(runInvocation_of_not_opens hopens).1] at hexit
      cases hexit

end EpisodeGuide.CommandLine
