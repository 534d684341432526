import Mathlib.Algebra.BigOperators.Group.List.Basic
import Mathlib.Data.List.Count
import Mathlib.Order.Basic
import Mathlib.Tactic.Abel

/-!
# Finite runs of a labelled transition system

A run keeps the whole history: every step is recorded together with the state
before it and the state after it.  Safety statements about one state, about one
step and about pairs of steps are then all statements about the recorded trace,
and each of the rules below packages one induction over it.
-/

namespace Transition

/-- One step of a run together with the states around it. -/
structure Event (State Label : Type) where
  before : State
  label : Label
  after : State

variable {State Label : Type} {step : State → Label → State → Prop}

/-- The runs of `step` that begin in `start`, with their trace in order. -/
inductive Run (step : State → Label → State → Prop) (start : State) :
    List (Event State Label) → State → Prop where
  | nil : Run step start [] start
  | snoc {trace : List (Event State Label)} {before after : State} {label : Label} :
      Run step start trace before → step before label after →
      Run step start (trace ++ [⟨before, label, after⟩]) after

/-- The event in the states and labels of another system. -/
def Event.map {Other Name : Type} (states : State → Other) (labels : Label → Name)
    (event : Event State Label) : Event Other Name :=
  ⟨states event.before, labels event.label, states event.after⟩

/-- Once the property holds in a state of the trace, it holds in all later ones. -/
def Lasting (property : State → Prop) (trace : List (Event State Label)) : Prop :=
  ∀ earlier event later, trace = earlier ++ event :: later → property event.before →
    ∀ other ∈ event :: later, property other.after

section History

variable {opens closes : Event State Label → Prop} {trace : List (Event State Label)}
variable {last : Event State Label}

/-- A position in a longer history is the last one or a position before it. -/
theorem snoc_eq_split {earlier later : List (Event State Label)} {event : Event State Label} :
    trace ++ [last] = earlier ++ event :: later ↔
      (later = [] ∧ earlier = trace ∧ event = last) ∨
        ∃ initial, later = initial ++ [last] ∧ trace = earlier ++ event :: initial := by
  constructor
  · intro position
    rcases List.eq_nil_or_concat later with rfl | ⟨initial, final, rfl⟩
    · obtain ⟨rfl, same⟩ := List.append_inj' position rfl
      exact .inl ⟨rfl, rfl, by simpa using same.symm⟩
    · have shifted : trace ++ [last] = (earlier ++ event :: initial) ++ [final] := by
        simpa using position
      obtain ⟨before, same⟩ := List.append_inj' shifted rfl
      obtain rfl : last = final := by simpa using same
      exact .inr ⟨initial, List.concat_eq_append, before⟩
  · rintro (⟨rfl, rfl, rfl⟩ | ⟨initial, rfl, rfl⟩)
    · rfl
    · simp

/-- What came before a position of a history came before its last event. -/
theorem mem_of_position_snoc {earlier later : List (Event State Label)}
    {event past : Event State Label} (position : trace ++ [last] = earlier ++ event :: later)
    (passed : past ∈ earlier) : past ∈ trace := by
  rcases snoc_eq_split.mp position with ⟨_, rfl, _⟩ | ⟨initial, _, rfl⟩
  · exact passed
  · exact List.mem_append_left _ passed

/-- An event of one kind was recorded, and none of another kind after it. -/
def Since (opens closes : Event State Label → Prop) (trace : List (Event State Label)) :
    Prop :=
  ∃ earlier event later, trace = earlier ++ event :: later ∧ opens event ∧
    ∀ other ∈ later, ¬closes other

theorem not_since_nil : ¬Since opens closes [] := by
  rintro ⟨earlier, event, later, position, -⟩
  simp at position

/-- The last event opens, or does not close what was open before it. -/
theorem since_snoc :
    Since opens closes (trace ++ [last]) ↔
      opens last ∨ ¬closes last ∧ Since opens closes trace := by
  constructor
  · rintro ⟨earlier, event, later, position, opening, unclosed⟩
    rcases snoc_eq_split.mp position with ⟨rfl, rfl, rfl⟩ | ⟨initial, rfl, rfl⟩
    · exact .inl opening
    · refine .inr ⟨unclosed last (by simp), earlier, event, initial, rfl, opening, ?_⟩
      exact fun other member => unclosed other (List.mem_append_left _ member)
  · rintro (opening | ⟨kept, earlier, event, later, rfl, opening, unclosed⟩)
    · exact ⟨trace, last, [], rfl, opening, by simp⟩
    · refine ⟨earlier, event, later ++ [last], by simp, opening, ?_⟩
      simpa [or_imp, forall_and] using ⟨unclosed, kept⟩

/-- The last event of one kind comes before an event of another kind. -/
def Precedes (first second : Event State Label → Prop) (trace : List (Event State Label)) :
    Prop :=
  ∃ earlier event later, trace = earlier ++ event :: later ∧ first event ∧
    (∀ other ∈ later, ¬first other) ∧ ∃ other ∈ later, second other

theorem precedes_snoc {first second : Event State Label → Prop} :
    Precedes first second (trace ++ [last]) ↔
      ¬first last ∧ (Precedes first second trace ∨ Since first first trace ∧ second last) := by
  constructor
  · rintro ⟨earlier, event, later, position, opening, unclosed, other, member, follows⟩
    rcases snoc_eq_split.mp position with ⟨rfl, rfl, rfl⟩ | ⟨initial, rfl, rfl⟩
    · simp at member
    · have quiet : ∀ other ∈ initial, ¬first other := fun other inside =>
        unclosed other (List.mem_append_left _ inside)
      refine ⟨unclosed last (by simp), ?_⟩
      rcases List.mem_append.mp member with inside | final
      · exact .inl ⟨earlier, event, initial, rfl, opening, quiet, other, inside, follows⟩
      · obtain rfl : other = last := by simpa using final
        exact .inr ⟨⟨earlier, event, initial, rfl, opening, quiet⟩, follows⟩
  · rintro ⟨kept, ⟨earlier, event, later, rfl, opening, unclosed, other, inside, follows⟩ |
      ⟨⟨earlier, event, later, rfl, opening, unclosed⟩, follows⟩⟩
    · refine ⟨earlier, event, later ++ [last], by simp, opening, ?_, other, ?_, follows⟩
      · simpa [or_imp, forall_and] using ⟨unclosed, kept⟩
      · exact List.mem_append_left _ inside
    · refine ⟨earlier, event, later ++ [last], by simp, opening, ?_, last, by simp, follows⟩
      simpa [or_imp, forall_and] using ⟨unclosed, kept⟩

/-- The members of a history stand at its positions. -/
theorem forall_mem_iff_at {property : Event State Label → Prop} :
    (∀ event ∈ trace, property event) ↔
      ∀ earlier event later, trace = earlier ++ event :: later → property event := by
  constructor
  · rintro every earlier event later rfl
    exact every event (by simp)
  · intro every event member
    obtain ⟨earlier, later, position⟩ := List.append_of_mem member
    exact every earlier event later position

/-- What holds at every position holds at those before the last and at the last. -/
theorem forall_position_snoc {property : List (Event State Label) → Event State Label → Prop} :
    (∀ earlier event later, trace ++ [last] = earlier ++ event :: later →
      property earlier event) ↔
      (∀ earlier event later, trace = earlier ++ event :: later → property earlier event) ∧
        property trace last := by
  constructor
  · intro every
    constructor
    · rintro earlier event later rfl
      exact every earlier event (later ++ [last]) (by simp)
    · exact every trace last [] rfl
  · rintro ⟨before, now⟩ earlier event later position
    rcases snoc_eq_split.mp position with ⟨rfl, rfl, rfl⟩ | ⟨initial, rfl, rfl⟩
    · exact now
    · exact before earlier event initial rfl

end History
namespace Run

variable {start middle final : State} {trace later : List (Event State Label)}

theorem single {label : Label} (stepped : step start label final) :
    Run step start [⟨start, label, final⟩] final :=
  .snoc .nil stepped

theorem append (first : Run step start trace middle) (second : Run step middle later final) :
    Run step start (trace ++ later) final := by
  induction second with
  | nil => simpa using first
  | snoc _ stepped ih =>
      rw [← List.append_assoc]
      exact .snoc ih stepped

/-- A run that records at least one step begins with that step. -/
theorem cons {label : Label} (stepped : step start label middle)
    (run : Run step middle later final) :
    Run step start (⟨start, label, middle⟩ :: later) final :=
  (single stepped).append run

/-- Where every step is one of another system, so is every run. -/
theorem map {Other Name : Type} {onto : Other → Name → Other → Prop} {states : State → Other}
    {labels : Label → Name}
    (simulates : ∀ {before : State} {label : Label} {after : State},
      step before label after → onto (states before) (labels label) (states after))
    (run : Run step start trace final) :
    Run onto (states start) (trace.map (Event.map states labels)) (states final) := by
  induction run with
  | nil => exact .nil
  | snoc _ stepped ih =>
      rw [List.map_append]
      exact ih.snoc (simulates stepped)

/-- Every recorded event is a step, reached by the events before it and
followed by the events after it. -/
theorem split (run : Run step start trace final) {event : Event State Label}
    {earlier rest : List (Event State Label)} (position : trace = earlier ++ event :: rest) :
    Run step start earlier event.before ∧ step event.before event.label event.after ∧
      Run step event.after rest final := by
  induction run generalizing rest with
  | nil => simp at position
  | @snoc trace before after label run stepped ih =>
      rcases snoc_eq_split.mp position with ⟨rfl, rfl, rfl⟩ | ⟨initial, rfl, rfl⟩
      · exact ⟨run, stepped, .nil⟩
      · obtain ⟨head, middle, tail⟩ := ih rfl
        exact ⟨head, middle, .snoc tail stepped⟩

theorem eq_of_nil (run : Run step start [] final) : final = start := by
  generalize empty : ([] : List (Event State Label)) = trace at run
  cases run with
  | nil => rfl
  | snoc => simp at empty

/-- The first event of a run begins where the run does. -/
theorem first {event : Event State Label} (run : Run step start (event :: later) final) :
    event.before = start ∧ step start event.label event.after ∧
      Run step event.after later final := by
  obtain ⟨reached, stepped, onward⟩ := run.split (List.nil_append _).symm
  have same := reached.eq_of_nil
  exact ⟨same, same ▸ stepped, onward⟩

/-- A run whose trace is in two parts is in two parts itself. -/
theorem split_append (run : Run step start (trace ++ later) final) :
    ∃ middle, Run step start trace middle ∧ Run step middle later final := by
  cases later with
  | nil => exact ⟨final, by simpa using run, .nil⟩
  | cons event rest =>
      obtain ⟨reached, stepped, remaining⟩ := run.split rfl
      exact ⟨event.before, reached, .cons stepped remaining⟩

/-- Every recorded event is a step from a state that a run reaches. -/
theorem reached_of_mem (run : Run step start trace final) {event : Event State Label}
    (member : event ∈ trace) :
    ∃ earlier, Run step start earlier event.before ∧
      step event.before event.label event.after := by
  obtain ⟨earlier, rest, position⟩ := List.append_of_mem member
  obtain ⟨reached, stepped, -⟩ := run.split position
  exact ⟨earlier, reached, stepped⟩

theorem stepped_of_mem (run : Run step start trace final) {event : Event State Label}
    (member : event ∈ trace) : step event.before event.label event.after := by
  obtain ⟨_, -, stepped⟩ := run.reached_of_mem member
  exact stepped

/-- Induction over the history: what each step establishes may use the whole
trace before it. -/
theorem history {motive : List (Event State Label) → State → Prop}
    (run : Run step start trace final) (initial : motive [] start)
    (next : ∀ (trace : List (Event State Label)) (event : Event State Label),
      Run step start trace event.before → motive trace event.before →
      step event.before event.label event.after → motive (trace ++ [event]) event.after) :
    motive trace final := by
  induction run with
  | nil => exact initial
  | snoc run stepped ih => exact next _ ⟨_, _, _⟩ run ih stepped

/-- A property that some steps establish, some end and all others keep holds where a
run ends if and only if it was established since it last ended. -/
theorem iff_since (property : State → Prop) (opens closes : Event State Label → Prop)
    (run : Run step start trace final) (initial : ¬property start)
    (exact : ∀ (trace : List (Event State Label)) (event : Event State Label),
      Run step start trace event.before → step event.before event.label event.after →
      (property event.after ↔ opens event ∨ ¬closes event ∧ property event.before)) :
    property final ↔ Since opens closes trace := by
  refine run.history (motive := fun trace state => property state ↔ Since opens closes trace)
    ⟨fun held => absurd held initial, fun since => absurd since not_since_nil⟩ ?_
  intro trace event reached same stepped
  rw [exact trace event reached stepped, since_snoc, same]

/-- A run of allowed steps from a state with a property that they preserve is a
run of allowed steps between states with that property. -/
theorem restrict (allowed : Event State Label → Prop) (property : State → Prop)
    (run : Run step start trace final) (every : ∀ event ∈ trace, allowed event)
    (initial : property start)
    (preserved : ∀ event : Event State Label, allowed event → property event.before →
      step event.before event.label event.after → property event.after) :
    Run (fun before label after =>
        step before label after ∧ allowed ⟨before, label, after⟩ ∧ property before)
      start trace final ∧ property final := by
  induction run with
  | nil => exact ⟨.nil, initial⟩
  | snoc _ stepped ih =>
      obtain ⟨earlier, held⟩ := ih fun event member =>
        every event (List.mem_append_left _ member)
      have permitted := every _ (List.mem_append_right _ List.mem_cons_self)
      exact ⟨.snoc earlier ⟨stepped, permitted, held⟩,
        preserved ⟨_, _, _⟩ permitted held stepped⟩

/-- A property that allowed steps preserve holds after every step of a run of such
steps. -/
theorem forall_after (allowed : Event State Label → Prop) (property : State → Prop)
    (run : Run step start trace final) (every : ∀ event ∈ trace, allowed event)
    (initial : property start)
    (preserved : ∀ event : Event State Label, allowed event → property event.before →
      step event.before event.label event.after → property event.after) :
    ∀ event ∈ trace, property event.after := by
  intro event member
  obtain ⟨earlier, rest, position⟩ := List.append_of_mem member
  obtain ⟨reached, stepped, -⟩ := run.split position
  have before : property event.before := by
    apply (reached.restrict allowed property _ initial preserved).2
    intro past passed
    exact every past (position ▸ List.mem_append_left _ passed)
  exact preserved event (every event member) before stepped

/-- A property that every step preserves holds wherever a run ends. -/
theorem invariant (property : State → Prop) (run : Run step start trace final)
    (initial : property start)
    (preserved : ∀ event : Event State Label, property event.before →
      step event.before event.label event.after → property event.after) :
    property final :=
  (restrict (fun _ => True) property run (fun _ _ => trivial) initial
    fun event _ => preserved event).2

/-- Where what is known of the history makes one condition on each step exactly what
keeps a property of the history, the property holds after every step of a run if and
only if every step meets the condition. -/
theorem forall_history_iff_at (property sound : List (Event State Label) → State → Prop)
    (good : List (Event State Label) → Event State Label → Prop)
    (run : Run step start trace final) (initial : property [] start) (soundly : sound [] start)
    (kept : ∀ (trace : List (Event State Label)) (event : Event State Label),
      sound trace event.before → property trace event.before →
      step event.before event.label event.after → sound (trace ++ [event]) event.after)
    (exact : ∀ (trace : List (Event State Label)) (event : Event State Label),
      sound trace event.before → property trace event.before →
      step event.before event.label event.after →
      (property (trace ++ [event]) event.after ↔ good trace event)) :
    (∀ earlier event later, trace = earlier ++ event :: later →
      property (earlier ++ [event]) event.after) ↔
      ∀ earlier event later, trace = earlier ++ event :: later → good earlier event := by
  let always (trace : List (Event State Label)) : Prop :=
    ∀ earlier event later, trace = earlier ++ event :: later →
      property (earlier ++ [event]) event.after
  let everGood (trace : List (Event State Label)) : Prop :=
    ∀ earlier event later, trace = earlier ++ event :: later → good earlier event
  suffices holds : (always trace ↔ everGood trace) ∧
      (always trace → property trace final ∧ sound trace final) from holds.1
  refine run.history (motive := fun trace state => (always trace ↔ everGood trace) ∧
      (always trace → property trace state ∧ sound trace state))
    ⟨by simp [always, everGood], fun _ => ⟨initial, soundly⟩⟩ ?_
  rintro trace event - ⟨same, reached⟩ stepped
  have alwaysSnoc : always (trace ++ [event]) ↔
      always trace ∧ property (trace ++ [event]) event.after := forall_position_snoc
  have goodSnoc : everGood (trace ++ [event]) ↔ everGood trace ∧ good trace event :=
    forall_position_snoc
  rw [alwaysSnoc, goodSnoc, ← same]
  refine ⟨and_congr_right ?_, ?_⟩
  · intro earlier
    obtain ⟨held, sounded⟩ := reached earlier
    exact exact trace event sounded held stepped
  · rintro ⟨earlier, last⟩
    obtain ⟨held, sounded⟩ := reached earlier
    exact ⟨last, kept trace event sounded held stepped⟩

/-- The rule for a property of states instead of histories. -/
theorem forall_after_iff_at (property : State → Prop)
    (sound : List (Event State Label) → State → Prop)
    (good : List (Event State Label) → Event State Label → Prop)
    (run : Run step start trace final) (initial : property start) (soundly : sound [] start)
    (kept : ∀ (trace : List (Event State Label)) (event : Event State Label),
      sound trace event.before → property event.before →
      step event.before event.label event.after → sound (trace ++ [event]) event.after)
    (exact : ∀ (trace : List (Event State Label)) (event : Event State Label),
      sound trace event.before → property event.before →
      step event.before event.label event.after → (property event.after ↔ good trace event)) :
    (∀ event ∈ trace, property event.after) ↔
      ∀ earlier event later, trace = earlier ++ event :: later → good earlier event :=
  forall_mem_iff_at.trans
    (run.forall_history_iff_at (fun _ => property) sound good initial soundly kept exact)

/-- Where an invariant makes one condition on each step exactly what keeps a
property, the property holds after every step of a run if and only if every step
meets the condition. -/
theorem forall_after_iff (property sound : State → Prop) (good : Event State Label → Prop)
    (run : Run step start trace final) (initial : property start) (soundly : sound start)
    (kept : ∀ event : Event State Label, sound event.before →
      step event.before event.label event.after → sound event.after)
    (exact : ∀ event : Event State Label, sound event.before → property event.before →
      step event.before event.label event.after → (property event.after ↔ good event)) :
    (∀ event ∈ trace, property event.after) ↔ ∀ event ∈ trace, good event := by
  apply Iff.trans _ forall_mem_iff_at.symm
  exact run.forall_after_iff_at property (fun _ => sound) (fun _ => good) initial soundly
    (fun _ event sounded _ stepped => kept event sounded stepped)
    (fun _ event => exact event)

/-- A property lasts along a run if and only if every step of the run keeps it. -/
theorem lasting_iff (property : State → Prop) (run : Run step start trace final) :
    Lasting property trace ↔
      ∀ event ∈ trace, property event.before → property event.after := by
  constructor
  · intro lasting event member held
    obtain ⟨earlier, later, position⟩ := List.append_of_mem member
    exact lasting earlier event later position held event List.mem_cons_self
  · intro keeps earlier event later position held other member
    obtain ⟨-, stepped, rest⟩ := run.split position
    obtain ⟨between, remaining, inside⟩ := List.append_of_mem member
    obtain ⟨reached, -, -⟩ := (Run.cons stepped rest).split inside
    have kept : ∀ past ∈ event :: later, property past.before → property past.after := by
      intro past passed
      exact keeps past (by simp [position, List.mem_cons.mp passed])
    have before : property other.before :=
      (reached.restrict (fun past => property past.before → property past.after) property
        (fun past passed => kept past (by rw [inside]; exact List.mem_append_left _ passed))
        held fun _ keep held _ => keep held).2
    exact kept other member before

/-- A measure that no step lowers is not lowered by a run. -/
theorem monotone {Order : Type} [Preorder Order] (measure : State → Order)
    (run : Run step start trace final)
    (grows : ∀ event : Event State Label,
      step event.before event.label event.after →
        measure event.before ≤ measure event.after) :
    measure start ≤ measure final := by
  refine run.invariant (fun state => measure start ≤ measure state) le_rfl ?_
  exact fun event below stepped => below.trans (grows event stepped)

/-- A measure that every step changes by a gain and a loss has changed by the sums of
the gains and of the losses. -/
theorem sum_eq {Amount : Type} [AddCommGroup Amount] (measure : State → Amount)
    (gain loss : Event State Label → Amount) (run : Run step start trace final)
    (changes : ∀ event : Event State Label, step event.before event.label event.after →
      measure event.after = measure event.before + gain event - loss event) :
    measure final = measure start + (trace.map gain).sum - (trace.map loss).sum := by
  induction run with
  | nil => simp
  | @snoc trace before after label _ stepped ih =>
      have last : measure after = measure before + gain ⟨before, label, after⟩ -
          loss ⟨before, label, after⟩ := changes ⟨before, label, after⟩ stepped
      simp only [List.map_append, List.map_singleton, List.sum_append, List.sum_singleton]
      rw [last, ih]
      abel

/-- Between two recorded events lies a run. -/
theorem pairwise_between (run : Run step start trace final) :
    trace.Pairwise fun first second =>
      ∃ between, Run step first.after between second.before := by
  induction run with
  | nil => simp
  | @snoc trace before after label run stepped ih =>
      refine List.pairwise_append.mpr ⟨ih, by simp, ?_⟩
      intro first member second last
      obtain rfl : second = ⟨before, label, after⟩ := by simpa using last
      obtain ⟨earlier, rest, position⟩ := List.append_of_mem member
      exact ⟨rest, (run.split position).2.2⟩

/-- A kind of step that needs a resource unspent, spends it, and whose spending
no step undoes, happens at most once. -/
theorem length_filter_le_one (hit : Event State Label → Bool) (spent : State → Prop)
    (run : Run step start trace final)
    (fresh : ∀ event : Event State Label, hit event = true →
      step event.before event.label event.after → ¬spent event.before)
    (spends : ∀ event : Event State Label, hit event = true →
      step event.before event.label event.after → spent event.after)
    (kept : ∀ event : Event State Label, spent event.before →
      step event.before event.label event.after → spent event.after) :
    (trace.filter hit).length ≤ 1 := by
  by_contra! more
  obtain ⟨first, second, rest, shape⟩ : ∃ first second rest,
      trace.filter hit = first :: second :: rest := by
    match shape : trace.filter hit with
    | [] => simp [shape] at more
    | [_] => simp [shape] at more
    | first :: second :: rest => exact ⟨first, second, rest, rfl⟩
  have firstHit := List.mem_filter.mp (shape ▸ List.mem_cons_self : first ∈ trace.filter hit)
  have secondHit := List.mem_filter.mp
    (shape ▸ List.mem_cons_of_mem _ List.mem_cons_self : second ∈ trace.filter hit)
  have ordered := (run.pairwise_between).filter hit
  rw [shape] at ordered
  obtain ⟨between, middleRun⟩ := (List.pairwise_cons.mp ordered).1 second List.mem_cons_self
  have spentThen := middleRun.invariant spent
    (spends first firstHit.2 (run.stepped_of_mem firstHit.1)) kept
  exact fresh second secondHit.2 (run.stepped_of_mem secondHit.1) spentThen

end Run

section Replay

variable (next : State → Label → Option State)

/-- Follow a list of labels from a state, where each has one successor at most. -/
def replay (start : State) : List Label → Option State
  | [] => some start
  | label :: rest => do
      let middle ← next start label
      replay middle rest

/-- A list of labels that can be followed is the trace of a run. -/
theorem run_of_replay {next : State → Label → Option State} {start final : State}
    {labels : List Label}
    (sound : ∀ {state label after}, next state label = some after → step state label after)
    (followed : replay next start labels = some final) :
    ∃ trace, Run step start trace final ∧ trace.map Event.label = labels := by
  induction labels generalizing start with
  | nil =>
      obtain rfl : start = final := by simpa [replay] using followed
      exact ⟨[], .nil, rfl⟩
  | cons label rest ih =>
      obtain ⟨middle, first, remaining⟩ := Option.bind_eq_some_iff.mp followed
      obtain ⟨trace, run, labelled⟩ := ih remaining
      exact ⟨⟨start, label, middle⟩ :: trace, Run.cons (sound first) run,
        by simp [labelled]⟩

/-- The successor under a label; the same state where there is none. -/
def advance (state : State) (label : Label) : State :=
  (next state label).getD state

theorem next_eq_advance {next : State → Label → Option State} {state : State} {label : Label}
    (followed : (next state label).isSome = true) :
    next state label = some (advance next state label) := by
  obtain ⟨after, reached⟩ := Option.isSome_iff_exists.mp followed
  simp [advance, reached]

/-- The events of following a list of labels. -/
def record (start : State) : List Label → List (Event State Label)
  | [] => []
  | label :: rest =>
      ⟨start, label, advance next start label⟩ :: record (advance next start label) rest

/-- Labels that can all be followed record a run. -/
theorem run_of_record {next : State → Label → Option State} {start : State}
    {labels : List Label}
    (sound : ∀ {state label after}, next state label = some after → step state label after)
    (followed : (replay next start labels).isSome = true) :
    Run step start (record next start labels) (labels.foldl (advance next) start) := by
  induction labels generalizing start with
  | nil => exact .nil
  | cons label rest ih =>
      obtain ⟨final, reached⟩ := Option.isSome_iff_exists.mp followed
      obtain ⟨middle, first, remaining⟩ := Option.bind_eq_some_iff.mp reached
      have advanced : advance next start label = middle := by simp [advance, first]
      have later : Run step middle (record next middle rest)
          (rest.foldl (advance next) middle) := ih (by simp [remaining])
      simp only [record, List.foldl_cons, advanced]
      exact Run.cons (sound first) later

end Replay

end Transition
