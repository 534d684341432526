import CredenceContracts.Library.LogReading
import CredenceContracts.Library.MachineInt
import CredenceContracts.Library.Run
import Mathlib.Data.List.Nodup
import Mathlib.Data.List.Perm.Subperm

/-!
# Reading a changing list by offsets

Elements are appended to a list and taken out of it, the others keeping their order.  A
reader asks for the elements from an offset on and goes on after those that it got.
Whatever is taken out lets the elements behind it move up past the reader, so at most as
many are missed as were taken out; and none is read twice unless it was appended again.
-/

namespace OffsetReading

open MachineInt Transition

section Slice

variable {α : Type} {list : List α} {offset size : Nat}

/-- The elements from an offset on, so many at most, with the end computed in 32 bits. -/
def slice (list : List α) (offset size : Nat) : List α :=
  if offset ≥ list.length then
    []
  else
    let stop := min (wrappingU32 (offset + size)) list.length
    (List.range' offset (stop - offset)).filterMap fun index => list[index]?

/-- Where no end overflows, a slice is a page. -/
theorem slice_eq_page (fits : list.length + size ≤ 2 ^ 32) :
    slice list offset size = LogReading.page offset size list := by
  rw [slice]
  by_cases past : offset ≥ list.length
  · rw [if_pos past, LogReading.page, List.drop_eq_nil_of_le past, List.take_nil]
  · have stop : wrappingU32 (offset + size) = offset + size := Nat.mod_eq_of_lt (by omega)
    simp only [if_neg past, stop, LogReading.filterMap_range'_eq_page fun _ => rfl]
    rw [LogReading.page, LogReading.page, List.take_eq_take_iff, List.length_drop]
    omega

end Slice

section Reader

variable {α State Label Limit : Type}

/-- How a stored list is read: the page from an offset on, and whether it is the last. -/
structure Reader (State Limit α : Type) where
  page : State → Nat → Limit → List α
  last : State → Nat → Limit → Bool

/-- A state in which the reader shows pages of the list, each of them with an element
unless it is the last. -/
structure Reader.Reads (reader : Reader State Limit α) (listed : State → List α)
    (size : Limit → Nat) (state : State) : Prop where
  page : ∀ offset limit,
    reader.page state offset limit = LogReading.page offset (size limit) (listed state)
  some : ∀ offset limit, reader.last state offset limit = false →
    reader.page state offset limit ≠ []
  past : ∀ offset limit, reader.last state offset limit = true →
    (listed state).length ≤ offset + (reader.page state offset limit).length

/-- A reader that ends with an empty page reads where a page is one of the list. -/
theorem Reader.Reads.of_empty {page : State → Nat → Limit → List α} {listed : State → List α}
    {size : Limit → Nat} {state : State} (positive : ∀ limit, 0 < size limit)
    (shows : ∀ offset limit,
      page state offset limit = LogReading.page offset (size limit) (listed state)) :
    Reader.Reads ⟨page, fun state offset limit => (page state offset limit).isEmpty⟩ listed
      size state where
  page := shows
  some := by simp
  past := by
    intro offset limit empty
    have nothing := (shows offset limit).symm.trans (List.isEmpty_iff.mp empty)
    exact ((LogReading.page_eq_nil (positive limit)).mp nothing).trans (Nat.le_add_right _ _)

/-- A walk from offset zero on, with anything between the pages, up to the last page.  The
states in which pages were read are kept. -/
inductive Walk (step : State → Label → State → Prop) (reader : Reader State Limit α)
    (start : State) : List State → List (Event State Label) → State → List α → Bool → Prop where
  | start : Walk step reader start [] [] start [] false
  | meanwhile {reads : List State} {trace : List (Event State Label)} {now after : State}
      {shown : List α} {label : Label} : Walk step reader start reads trace now shown false →
      step now label after →
      Walk step reader start reads (trace ++ [⟨now, label, after⟩]) after shown false
  | read {reads : List State} {trace : List (Event State Label)} {now : State}
      {shown : List α} (limit : Limit) : Walk step reader start reads trace now shown false →
      Walk step reader start (reads ++ [now]) trace now
        (shown ++ reader.page now shown.length limit) (reader.last now shown.length limit)

/-- The element was listed at some time of a history. -/
def Appeared (listed : State → List α) (start : State) (trace : List (Event State Label))
    (element : α) : Prop :=
  element ∈ listed start ∨ ∃ event ∈ trace, element ∈ listed event.after

variable {step : State → Label → State → Prop} {reader : Reader State Limit α}
variable {start now : State} {reads : List State} {trace : List (Event State Label)}
variable {shown : List α} {ended : Bool} {listed : State → List α} {size : Limit → Nat}
variable {element : α}

theorem Appeared.snoc_iff {event : Event State Label} :
    Appeared listed start (trace ++ [event]) element ↔
      Appeared listed start trace element ∨ element ∈ listed event.after := by
  simp [Appeared, or_and_right, exists_or, or_assoc]

theorem flatMap_snoc {taken : Event State Label → List α} {event : Event State Label} :
    (trace ++ [event]).flatMap taken = trace.flatMap taken ++ taken event := by
  simp

theorem Walk.run (walk : Walk step reader start reads trace now shown ended) :
    Run step start trace now := by
  induction walk with
  | start => exact .nil
  | meanwhile _ stepped ih => exact ih.snoc stepped
  | read _ _ ih => exact ih

/-- Anything may happen between two pages. -/
theorem Walk.meanwhileAll {later : List (Event State Label)} {after : State}
    (walk : Walk step reader start reads trace now shown false)
    (run : Run step now later after) :
    Walk step reader start reads (trace ++ later) after shown false := by
  induction run with
  | nil => simpa using walk
  | snoc _ stepped ih =>
      rw [← List.append_assoc]
      exact ih.meanwhile stepped

/-- What happens during a walk happens in states that are reached from where its history
began. -/
theorem Walk.reached {origin : State} {history : List (Event State Label)}
    (walk : Walk step reader start reads trace now shown ended)
    (run : Run step origin history start) {event : Event State Label} (member : event ∈ trace) :
    ∃ earlier, Run step origin earlier event.before ∧
      step event.before event.label event.after := by
  obtain ⟨earlier, reached, stepped⟩ := walk.run.reached_of_mem member
  exact ⟨history ++ earlier, run.append reached, stepped⟩

/-- What is listed at the end of a history appeared in it. -/
theorem Appeared.of_listed (run : Run step start trace now) (present : element ∈ listed now) :
    Appeared listed start trace element := by
  cases run with
  | nil => exact .inl present
  | snoc => exact Appeared.snoc_iff.mpr (.inr present)

/-- An event keeps the marks and marks what it lists. -/
def Marks (listed : State → List α) (mark : State → α → Prop) (event : Event State Label) :
    Prop :=
  (∀ element, mark event.before element → mark event.after element) ∧
    ∀ element ∈ listed event.after, mark event.after element

theorem Appeared.marked {mark : State → α → Prop} (run : Run step start trace now)
    (first : ∀ element ∈ listed start, mark start element)
    (marks : ∀ event ∈ trace, Marks listed mark event)
    (appeared : Appeared listed start trace element) : mark now element := by
  induction run with
  | nil => exact first element (by simpa [Appeared] using appeared)
  | @snoc trace before after label _ _ ih =>
      obtain ⟨keeps, lists⟩ := marks ⟨before, label, after⟩ (by simp)
      rcases Appeared.snoc_iff.mp appeared with old | present
      · exact keeps element
          (ih (fun event member => marks event (List.mem_append_left _ member)) old)
      · exact lists element present

/-- Whatever is appended after it had appeared is noted as such. -/
def Noted (listed : State → List α) (start : State)
    (again : List (Event State Label) → List α) (trace : List (Event State Label)) : Prop :=
  ∀ earlier event later, trace = earlier ++ event :: later →
    again earlier ⊆ again (earlier ++ [event]) ∧
      ∀ element ∈ listed event.after, element ∉ listed event.before →
        Appeared listed start earlier element → element ∈ again (earlier ++ [event])

/-- Nothing is appended again where a mark on all that was listed tells what is new. -/
theorem Noted.of_marks {mark : State → α → Prop} (run : Run step start trace now)
    (first : ∀ element ∈ listed start, mark start element)
    (marks : ∀ event ∈ trace, Marks listed mark event)
    (new : ∀ event ∈ trace, ∀ element ∈ listed event.after, element ∉ listed event.before →
      ¬mark event.before element) :
    Noted listed start (fun _ => []) trace := by
  rintro earlier event later rfl
  refine ⟨List.Subset.refl _, fun element present absent appeared => ?_⟩
  obtain ⟨reached, -, -⟩ := run.split rfl
  have known := appeared.marked reached first fun past member =>
    marks past (List.mem_append_left _ member)
  exact absurd known (new event (by simp) element present absent)

/-- A walk shows what was listed. -/
theorem Walk.appeared (walk : Walk step reader start reads trace now shown ended)
    (sound : ∀ state ∈ reads, reader.Reads listed size state) :
    ∀ element ∈ shown, Appeared listed start trace element := by
  induction walk with
  | start => simp
  | meanwhile _ _ ih =>
      exact fun element member => Appeared.snoc_iff.mpr (.inl (ih sound element member))
  | @read reads trace now shown limit walk ih =>
      intro element member
      rcases List.mem_append.mp member with earlier | present
      · exact ih (fun state old => sound state (List.mem_append_left _ old)) element earlier
      · rw [(sound now (by simp)).page] at present
        exact .of_listed walk.run (List.mem_of_mem_drop (List.mem_of_mem_take present))

/-- Every page but the last shows something. -/
theorem Walk.reads_le (walk : Walk step reader start reads trace now shown ended)
    (sound : ∀ state ∈ reads, reader.Reads listed size state) :
    reads.length ≤ shown.length + ended.toNat := by
  induction walk with
  | start => simp
  | meanwhile _ _ ih => exact ih sound
  | @read reads trace now shown limit _ ih =>
      have before : reads.length ≤ shown.length :=
        ih fun state old => sound state (List.mem_append_left _ old)
      have here := sound now (by simp)
      rw [List.length_append, List.length_append, List.length_singleton]
      cases last : reader.last now shown.length limit with
      | true => simp only [Bool.toNat_true]; omega
      | false =>
          have shows := List.length_pos_iff.mpr (here.some shown.length limit last)
          simp only [Bool.toNat_false]
          omega

/-- Behind the last page nothing is left. -/
theorem Walk.past (walk : Walk step reader start reads trace now shown ended)
    (sound : ∀ state ∈ reads, reader.Reads listed size state) (last : ended = true) :
    (listed now).length ≤ shown.length := by
  cases walk with
  | start => cases last
  | meanwhile => cases last
  | read limit =>
      rw [List.length_append]
      exact (sound now (by simp)).past _ limit last

end Reader

section Lists

variable {α : Type} [DecidableEq α]

/-- Elements that are not listed are appended, or elements are taken out. -/
inductive Edit (list : List α) : List α → List α → Prop where
  | append {added : List α} : (list ++ added).Nodup → Edit list [] (list ++ added)
  | remove {out : List α} : Edit list out (list.diff out)

/-- The elements in front of the reader that it was shown. -/
def held (list shown : List α) : List α :=
  (list.take shown.length).filter (· ∈ shown)

/-- Where a reader stands: what it was shown, what was taken out since it began, and what
was appended again after it was shown. -/
structure Standing (list shown gone again : List α) : Prop where
  nodup : list.Nodup
  passed : ∀ element ∈ shown, element ∈ list → element ∉ again →
    element ∈ list.take shown.length
  once : ∀ element, element ∉ again → shown.count element ≤ 1
  moved : shown.length ≤ (held list shown).length + gone.length
  begins : gone = [] → shown <+: list

variable {list shown gone again added : List α} {element : α} {size : Nat}

theorem Edit.same (nodup : list.Nodup) : Edit list [] list := by
  have nothing : (list ++ []).Nodup := by rwa [List.append_nil]
  simpa only [List.append_nil] using Edit.append nothing

theorem Edit.erase : Edit list [element] (list.erase element) := by
  simpa using (Edit.remove : Edit list [element] (list.diff [element]))

/-- What an edit takes off the list is what it takes out. -/
theorem Edit.taken {after out : List α} (edit : Edit list out after) (stood : element ∈ list)
    (absent : element ∉ after) : element ∈ out := by
  cases edit with
  | append => exact absurd (List.mem_append_left _ stood) absent
  | remove =>
      by_contra kept
      exact absent (List.mem_diff_of_mem stood kept)

theorem mem_held : element ∈ held list shown ↔
    element ∈ list.take shown.length ∧ element ∈ shown := by
  simp [held]

theorem held_length_le : (held list shown).length ≤ list.length :=
  (List.length_filter_le _ _).trans (List.length_take_le' _ _)

theorem nodup_held (shown : List α) (nodup : list.Nodup) : (held list shown).Nodup :=
  (nodup.sublist (List.take_sublist _ _)).filter _

/-- Taking out one element takes no other from the front. -/
theorem mem_take_erase {other : α} {offset : Nat} (front : other ∈ list.take offset)
    (differs : other ≠ element) : other ∈ (list.erase element).take offset := by
  by_cases member : element ∈ list.take offset
  · have split : list.erase element =
        (list.take offset).erase element ++ list.drop offset := by
      conv_lhs => rw [← List.take_append_drop offset list]
      exact List.erase_append_left _ member
    have short : ((list.take offset).erase element).length ≤ offset :=
      (List.length_erase_le).trans (List.length_take_le _ _)
    rw [split, List.take_append, List.take_of_length_le short]
    exact List.mem_append_left _ ((List.mem_erase_of_ne differs).mpr front)
  · have split : list.erase element =
        list.take offset ++ (list.drop offset).erase element := by
      conv_lhs => rw [← List.take_append_drop offset list]
      exact List.erase_append_right _ member
    rw [split, List.take_append, List.take_of_length_le (List.length_take_le _ _)]
    exact List.mem_append_left _ front

theorem Standing.start (nodup : list.Nodup) : Standing list [] [] again where
  nodup := nodup
  passed := by simp
  once := by simp
  moved := by simp
  begins := fun _ => List.nil_prefix

theorem Standing.widen {wider : List α} (standing : Standing list shown gone again)
    (more : again ⊆ wider) : Standing list shown gone wider where
  nodup := standing.nodup
  passed := fun element wasShown listed fresh =>
    standing.passed element wasShown listed fun member => fresh (more member)
  once := fun element fresh => standing.once element fun member => fresh (more member)
  moved := standing.moved
  begins := standing.begins

/-- Nothing in front of the reader changes when elements are appended, unless it has gone
past the end. -/
theorem Standing.append (standing : Standing list shown gone again)
    (nodup : (list ++ added).Nodup)
    (returning : ∀ element ∈ added, element ∈ shown → element ∈ again) :
    Standing (list ++ added) shown gone again where
  nodup := nodup
  passed := by
    intro element wasShown listed fresh
    rw [List.take_append]
    rcases List.mem_append.mp listed with old | new
    · exact List.mem_append_left _ (standing.passed element wasShown old fresh)
    · exact absurd (returning element new wasShown) fresh
  once := standing.once
  moved := by
    have more : (held list shown).length ≤ (held (list ++ added) shown).length := by
      rw [held, held, List.take_append, List.filter_append, List.length_append]
      exact Nat.le_add_right _ _
    exact standing.moved.trans (Nat.add_le_add_right more _)
  begins := fun nothing => (standing.begins nothing).trans (List.prefix_append _ _)

/-- One element that is taken out costs the reader at most one of those in front of it. -/
theorem Standing.remove (standing : Standing list shown gone again) (element : α) :
    Standing (list.erase element) shown (gone ++ [element]) again where
  nodup := standing.nodup.erase element
  passed := by
    intro other wasShown listed fresh
    obtain ⟨differs, member⟩ := standing.nodup.mem_erase_iff.mp listed
    exact mem_take_erase (standing.passed other wasShown member fresh) differs
  once := standing.once
  moved := by
    have kept : (held list shown).erase element ⊆ held (list.erase element) shown := by
      intro other member
      obtain ⟨differs, wasHeld⟩ := (nodup_held shown standing.nodup).mem_erase_iff.mp member
      obtain ⟨front, wasShown⟩ := mem_held.mp wasHeld
      exact mem_held.mpr ⟨mem_take_erase front differs, wasShown⟩
    have distinct := (nodup_held shown standing.nodup).erase element
    have fewer := (distinct.subperm kept).length_le
    have lost : (held list shown).length - 1 ≤ ((held list shown).erase element).length :=
      List.le_length_erase
    have moved := standing.moved
    rw [List.length_append, List.length_singleton]
    omega
  begins := by simp

theorem Standing.removeAll (standing : Standing list shown gone again) (out : List α) :
    Standing (list.diff out) shown (gone ++ out) again := by
  induction out generalizing list gone with
  | nil => simpa using standing
  | cons element rest ih =>
      rw [List.diff_cons, List.append_cons]
      exact ih (standing.remove element)

/-- A page goes on where the reader stands. -/
theorem Standing.read (standing : Standing list shown gone again) (size : Nat) :
    Standing list (shown ++ LogReading.page shown.length size list) gone again := by
  have front : list.take (shown ++ LogReading.page shown.length size list).length =
      list.take shown.length ++ LogReading.page shown.length size list := by
    have exact : LogReading.page shown.length size list =
        (list.drop shown.length).take (LogReading.page shown.length size list).length :=
      List.prefix_iff_eq_take.mp (List.take_prefix size _)
    rw [List.length_append, List.take_add, ← exact]
  have apart : (list.take shown.length ++ LogReading.page shown.length size list).Nodup :=
    front ▸ standing.nodup.sublist (List.take_sublist _ _)
  constructor
  · exact standing.nodup
  · intro element wasShown listed fresh
    rw [front]
    rcases List.mem_append.mp wasShown with earlier | now
    · exact List.mem_append_left _ (standing.passed element earlier listed fresh)
    · exact List.mem_append_right _ now
  · intro element fresh
    rw [List.count_append]
    by_cases now : element ∈ LogReading.page shown.length size list
    · have unread : element ∉ shown := by
        intro earlier
        have listed : element ∈ list := List.mem_of_mem_drop (List.mem_of_mem_take now)
        exact List.disjoint_of_nodup_append apart
          (standing.passed element earlier listed fresh) now
      rw [List.count_eq_zero_of_not_mem unread, Nat.zero_add]
      exact List.nodup_iff_count_le_one.mp (List.nodup_append.mp apart).2.1 element
    · rw [List.count_eq_zero_of_not_mem now]
      exact standing.once element fresh
  · have more : (held list shown).length + (LogReading.page shown.length size list).length ≤
        (held list (shown ++ LogReading.page shown.length size list)).length := by
      rw [held, held, front, List.filter_append, List.length_append]
      refine Nat.add_le_add ?_ ?_
      · refine (List.monotone_filter_right _ ?_).length_le
        intro element wasShown
        simpa using Or.inl (of_decide_eq_true wasShown)
      · rw [List.filter_eq_self.mpr (by simp +contextual)]
    have moved := standing.moved
    rw [List.length_append]
    omega
  · exact fun nothing => LogReading.append_page_isPrefix (standing.begins nothing)

/-- A reader at the end has missed at most as many elements as were taken out. -/
theorem Standing.missed_le (standing : Standing list shown gone again)
    (past : list.length ≤ shown.length) :
    (list.filter (· ∉ shown)).length ≤ gone.length := by
  have all : held list shown = list.filter (· ∈ shown) := by
    rw [held, List.take_of_length_le past]
  have parts : (list.filter (· ∈ shown)).length + (list.filter (· ∉ shown)).length =
      list.length := by
    simpa using (List.length_eq_length_filter_add (l := list) (· ∈ shown)).symm
  have moved := standing.moved
  rw [all] at moved
  omega

end Lists

section Walks

variable {α State Label Limit : Type} [DecidableEq α]
variable {step : State → Label → State → Prop} {reader : Reader State Limit α}
variable {start now : State} {reads : List State} {trace : List (Event State Label)}
variable {shown : List α} {ended : Bool} {listed : State → List α} {size : Limit → Nat}
variable {taken : Event State Label → List α}

/-- Along a history the list is edited. -/
def Edited (listed : State → List α) (taken : Event State Label → List α)
    (trace : List (Event State Label)) : Prop :=
  ∀ event ∈ trace, Edit (listed event.before) (taken event) (listed event.after)

/-- What appeared and is not listed any more was taken out. -/
theorem Edited.listed_or_taken (edited : Edited listed taken trace)
    (run : Run step start trace now) {element : α}
    (appeared : Appeared listed start trace element) :
    element ∈ listed now ∨ element ∈ trace.flatMap taken := by
  induction run with
  | nil => simpa [Appeared] using appeared
  | @snoc trace before after label _ _ ih =>
      have earlier := ih fun event member => edited event (List.mem_append_left _ member)
      have edit : Edit (listed before) (taken ⟨before, label, after⟩) (listed after) :=
        edited ⟨before, label, after⟩ (by simp)
      rw [flatMap_snoc, List.mem_append]
      by_cases stands : element ∈ listed after
      · exact .inl stands
      · rcases Appeared.snoc_iff.mp appeared with old | present
        · rcases earlier old with stood | gone
          · exact .inr (.inr (edit.taken stood stands))
          · exact .inr (.inl gone)
        · exact absurd present stands

/-- What is appended after it had appeared was taken out before. -/
theorem Edited.noted (edited : Edited listed taken trace) (run : Run step start trace now) :
    Noted listed start (fun history => history.flatMap taken) trace := by
  rintro earlier event later rfl
  simp only [flatMap_snoc]
  refine ⟨List.subset_append_left _ _, fun element _ absent appeared => ?_⟩
  obtain ⟨reached, -, -⟩ := run.split rfl
  have before : Edited listed taken earlier := fun past member =>
    edited past (List.mem_append_left _ member)
  exact List.mem_append_left _ ((before.listed_or_taken reached appeared).resolve_left absent)

/-- What an event leaves of a reader's standing. -/
theorem Standing.after_event {event : Event State Label}
    (standing : Standing (listed event.before) shown (trace.flatMap taken) again)
    (edit : Edit (listed event.before) (taken event) (listed event.after))
    (returning : ∀ element ∈ listed event.after, element ∉ listed event.before →
      element ∈ shown → element ∈ again) :
    Standing (listed event.after) shown ((trace ++ [event]).flatMap taken) again := by
  obtain ⟨before, label, after⟩ := event
  simp only at standing edit returning ⊢
  rw [flatMap_snoc]
  generalize taken ⟨before, label, after⟩ = out at edit ⊢
  generalize listed after = list at edit returning ⊢
  cases edit with
  | @append added nodup =>
      rw [List.append_nil]
      refine standing.append nodup fun element new => ?_
      exact returning element (List.mem_append_right _ new)
        fun old => List.disjoint_of_nodup_append nodup old new
  | @remove out => exact standing.removeAll out

/-- A walk over an edited list keeps its reader standing. -/
theorem Walk.standing {again : List (Event State Label) → List α}
    (walk : Walk step reader start reads trace now shown ended)
    (sound : ∀ state ∈ reads, reader.Reads listed size state) (nodup : (listed start).Nodup)
    (edited : Edited listed taken trace) (noted : Noted listed start again trace) :
    Standing (listed now) shown (trace.flatMap taken) (again trace) := by
  induction walk with
  | start => exact .start nodup
  | @meanwhile reads trace now after shown label walk stepped ih =>
      have earlier : Noted listed start again trace := by
        rintro before event later rfl
        exact noted before event (later ++ [⟨now, label, after⟩]) (by simp)
      have standing := ih sound
        (fun event member => edited event (List.mem_append_left _ member)) earlier
      obtain ⟨grows, notes⟩ := noted trace ⟨now, label, after⟩ [] rfl
      refine (standing.widen grows).after_event (edited ⟨now, label, after⟩ (by simp)) ?_
      intro element present absent wasShown
      exact notes element present absent (walk.appeared sound element wasShown)
  | @read reads trace now shown limit walk ih =>
      have standing := ih (fun state old => sound state (List.mem_append_left _ old)) edited noted
      rw [(sound now (by simp)).page]
      exact standing.read _

/-- Once it has seen the last page, a walk has missed at most as many elements as were
taken out meanwhile, and without any it has shown the list. -/
theorem Walk.missed_le (walk : Walk step reader start reads trace now shown true)
    (sound : ∀ state ∈ reads, reader.Reads listed size state) (nodup : (listed start).Nodup)
    (edited : Edited listed taken trace) (noted : Noted listed start again trace) :
    ((listed now).filter (· ∉ shown)).length ≤ (trace.flatMap taken).length ∧
      (trace.flatMap taken = [] → shown = listed now) := by
  have standing := walk.standing sound nodup edited noted
  have past := walk.past sound rfl
  refine ⟨standing.missed_le past, fun nothing => ?_⟩
  exact (standing.begins nothing).eq_of_length_le past

/-- A walk that goes on ends: it has read at most one page more than it was shown
elements, and these are at most as many as are listed or were taken out. -/
theorem Walk.bounded (walk : Walk step reader start reads trace now shown ended)
    (sound : ∀ state ∈ reads, reader.Reads listed size state) (nodup : (listed start).Nodup)
    (edited : Edited listed taken trace) (noted : Noted listed start again trace) :
    reads.length ≤ (listed now).length + (trace.flatMap taken).length + 1 := by
  have standing := walk.standing sound nodup edited noted
  have reads := walk.reads_le sound
  have moved := standing.moved
  have fewer : (held (listed now) shown).length ≤ (listed now).length := held_length_le
  have once := Bool.toNat_le ended
  omega

end Walks

end OffsetReading
