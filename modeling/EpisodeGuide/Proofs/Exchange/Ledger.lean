import EpisodeGuide.Http.Script
import EpisodeGuide.Proofs.Catalog.Lockstep
import EpisodeGuide.Proofs.Exchange.Recording

/-! # Scripts with a ledger

A script that is written in other items than answers, with a ledger of the requests and of the items
that they took. It goes like the script of the answers that the items stand for. -/

namespace EpisodeGuide

open Http

variable {ι : Type}

/-- The items still to come, and every request with the item that it took, if one was left. -/
structure Ledger (ι : Type) where
  waiting : List ι
  used : List (Request × Option ι)

/-- A script that is written in items: every item stands for an answer. -/
def Http.Script.channel (play : ι → Answer) : Channel Script ι :=
  ⟨Script.send, fun items => Script.enqueue (items.map play)⟩

namespace Ledger

def send (play : ι → Answer) : Transport (Ledger ι) := fun request l =>
  (match l.waiting.head? with
    | some item => (play item).outcome request.url
    | none => .error (.requestFailed request.url "no scripted response left"),
    ⟨l.waiting.tail, l.used ++ [(request, l.waiting.head?)]⟩)

def channel (play : ι → Answer) : Channel (Ledger ι) ι :=
  ⟨send play, fun items l => { l with waiting := l.waiting ++ items }⟩

def script (play : ι → Answer) (l : Ledger ι) : Script :=
  ⟨l.waiting.map play, l.used.map Prod.fst⟩

variable {play : ι → Answer}

theorem send_script (play : ι → Answer) (request : Request) (l : Ledger ι) :
    Script.send request (l.script play) =
      ((send play request l).1, (send play request l).2.script play) := by
  obtain ⟨_ | ⟨item, rest⟩, used⟩ := l <;> simp [Script.send, send, script]

/-- A ledger goes like its script. -/
theorem lockstep_script (play : ι → Answer) :
    Lockstep (channel play) (Script.channel play) (fun _ => True) (fun _ => True)
      (Session.SameClient fun l script => script = l.script play) where
  toSimulation := by
    refine Session.simulation_of_answerAlike ?_
    rintro request l _ rfl
    have hsend := send_script play request l
    exact ⟨(congrArg Prod.fst hsend).symm, congrArg Prod.snd hsend⟩
  soundDelivery := fun _ _ _ => trivial
  delivery := by
    rintro c l _ _ items ⟨rfl, rfl⟩ -
    exact ⟨rfl, by simp [Script.channel, channel, Script.enqueue, script]⟩

/-- Whatever entries a ledger may have, it had no others before. -/
theorem inherited_used (play : ι → Answer) (P : Request × Option ι → Prop) :
    Inherited (send play) fun l => ∀ u ∈ l.used, P u :=
  fun _ _ h u hu => h u (List.mem_append_left _ hu)

end Ledger

end EpisodeGuide
