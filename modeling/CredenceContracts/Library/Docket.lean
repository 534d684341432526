import CredenceContracts.Library.Run
import Mathlib.Data.List.Nodup

/-!
# Dockets

Matters are filed under the numbers from zero on, voted on while they are open, and closed
with a verdict.  A voter casts one ballot in a matter, and a matter that is closed stays as
it is.
-/

namespace Docket

open Transition

/-- A matter, the ballots cast in it, and its verdict once it is closed. -/
structure Matter (Content Voter : Type) where
  content : Content
  ballots : List (Voter × Bool)
  verdict : Option Bool

/-- What is entered in a docket. -/
inductive Entry (Content Voter : Type) where
  | filed (content : Content)
  | cast (number : Nat) (voter : Voter) (choice : Bool)
  | closed (number : Nat) (verdict : Bool)
  | other

variable {Content Voter : Type}

/-- What may be entered in a docket. -/
inductive Step : List (Matter Content Voter) → Entry Content Voter →
    List (Matter Content Voter) → Prop where
  | filed {docket : List (Matter Content Voter)} {content : Content} :
      Step docket (.filed content) (docket ++ [⟨content, [], none⟩])
  | cast {docket : List (Matter Content Voter)} {number : Nat} {matter : Matter Content Voter}
      {voter : Voter} {choice : Bool} : docket[number]? = some matter →
      matter.verdict = none → voter ∉ matter.ballots.map Prod.fst →
      Step docket (.cast number voter choice)
        (docket.set number { matter with ballots := matter.ballots ++ [(voter, choice)] })
  | closed {docket : List (Matter Content Voter)} {number : Nat}
      {matter : Matter Content Voter} {verdict : Bool} : docket[number]? = some matter →
      matter.verdict = none →
      Step docket (.closed number verdict)
        (docket.set number { matter with verdict := some verdict })
  | other {docket : List (Matter Content Voter)} : Step docket .other docket

variable {before after start final : List (Matter Content Voter)} {entry : Entry Content Voter}
variable {trace : List (Event (List (Matter Content Voter)) (Entry Content Voter))}

section Continuation

/-- The matter goes on as another: its content stays, its ballots stay in front, and once
it is closed it stays as it is. -/
structure Matter.Continues (matter later : Matter Content Voter) : Prop where
  content : later.content = matter.content
  ballots : matter.ballots <+: later.ballots
  closed : matter.verdict.isSome = true → later = matter

theorem Matter.Continues.refl (matter : Matter Content Voter) : matter.Continues matter :=
  ⟨rfl, List.prefix_rfl, fun _ => rfl⟩

theorem Matter.Continues.trans {matter middle later : Matter Content Voter}
    (first : matter.Continues middle) (second : middle.Continues later) :
    matter.Continues later where
  content := second.content.trans first.content
  ballots := first.ballots.trans second.ballots
  closed settled := by
    obtain rfl := first.closed settled
    exact second.closed settled

/-- Every matter of a docket goes on in a later one under its number. -/
def Onward (docket later : List (Matter Content Voter)) : Prop :=
  ∀ (number : Nat) (matter : Matter Content Voter), docket[number]? = some matter →
    ∃ onward, later[number]? = some onward ∧ matter.Continues onward

theorem Onward.refl (docket : List (Matter Content Voter)) : Onward docket docket :=
  fun _ matter found => ⟨matter, found, .refl matter⟩

theorem Onward.trans {docket middle later : List (Matter Content Voter)}
    (first : Onward docket middle) (second : Onward middle later) :
    Onward docket later := by
  intro number matter found
  obtain ⟨between, standing, toMiddle⟩ := first number matter found
  obtain ⟨onward, stands, toLater⟩ := second number between standing
  exact ⟨onward, stands, toMiddle.trans toLater⟩

/-- Where one matter goes on, the docket does. -/
theorem onward_set {number : Nat} {matter changed : Matter Content Voter}
    (found : before[number]? = some matter) (goes : matter.Continues changed) :
    Onward before (before.set number changed) := by
  intro other standing stands
  have inside : number < before.length := (List.getElem?_eq_some_iff.mp found).1
  by_cases same : number = other
  · subst same
    obtain rfl := Option.some.inj (found.symm.trans stands)
    exact ⟨changed, List.getElem?_set_self inside, goes⟩
  · exact ⟨standing, by rw [List.getElem?_set_ne same, stands], .refl standing⟩

theorem Step.onward (stepped : Step before entry after) : Onward before after := by
  cases stepped with
  | filed =>
      intro number matter found
      have inside : number < before.length := (List.getElem?_eq_some_iff.mp found).1
      exact ⟨matter, by rw [List.getElem?_append_left inside, found], .refl matter⟩
  | cast found undecided =>
      apply onward_set found
      exact ⟨rfl, List.prefix_append _ _, by simp [undecided]⟩
  | closed found undecided =>
      apply onward_set found
      exact ⟨rfl, List.prefix_rfl, by simp [undecided]⟩
  | other => exact .refl before

theorem onward_of_run (run : Run Step start trace final) : Onward start final := by
  induction run with
  | nil => exact .refl start
  | snoc _ stepped ih => exact ih.trans stepped.onward

end Continuation

section Ballots

/-- Nobody has cast two ballots in a matter. -/
def Single (docket : List (Matter Content Voter)) : Prop :=
  ∀ matter ∈ docket, (matter.ballots.map Prod.fst).Nodup

theorem Step.single (stepped : Step before entry after) (single : Single before) :
    Single after := by
  cases stepped with
  | filed =>
      intro matter member
      rcases List.mem_append.mp member with earlier | last
      · exact single matter earlier
      · rw [List.mem_singleton.mp last]
        exact List.nodup_nil
  | cast found _ absent =>
      intro matter member
      rcases List.mem_or_eq_of_mem_set member with earlier | rfl
      · exact single matter earlier
      · simpa using List.Nodup.concat absent (single _ (List.mem_of_getElem? found))
  | closed found _ =>
      intro matter member
      rcases List.mem_or_eq_of_mem_set member with earlier | rfl
      · exact single matter earlier
      · have held := single _ (List.mem_of_getElem? found)
        exact held
  | other => exact single

theorem single_of_run (run : Run Step [] trace final) : Single final :=
  run.invariant Single nofun fun _ held stepped => stepped.single held

end Ballots

end Docket
