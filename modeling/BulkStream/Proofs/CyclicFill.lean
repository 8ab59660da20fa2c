import Mathlib.Algebra.GroupWithZero.Nat
import Mathlib.Logic.Relation
import BulkStream.Storage.Rewinding

/-!
Filling buffers from a cycle. A reader may give its content in pieces of any size and be interrupted
now and then; buffers filled from it one after another hold the content over and over, wherever its
end falls among them. Only a reader without content makes a fill fail of itself, and any other
failure is the reader's own.
-/
namespace BulkStream.Storage

variable {ρ : Type} {input : Input ρ}

/-- So many bytes of some content read again and again, from a place in it. -/
def cycle (content : Bytes) (start count : Nat) : Bytes :=
  (List.range count).map fun i => content.getD ((start + i) % content.length) 0

theorem length_cycle (content : Bytes) (start count : Nat) :
    (cycle content start count).length = count := by
  simp only [cycle, List.length_map, List.length_range]

theorem cycle_add (content : Bytes) (start m n : Nat) :
    cycle content start (m + n) = cycle content start m ++ cycle content (start + m) n := by
  simp only [cycle, List.range_add, List.map_append, List.map_map, Function.comp_def,
    Nat.add_assoc]

theorem cycle_congr (content : Bytes) {a b : Nat} (same : a % content.length = b % content.length)
    (count : Nat) : cycle content a count = cycle content b count := by
  apply List.map_congr_left
  intro i _
  rw [Nat.add_mod, same, ← Nat.add_mod]

/-- Short of its end the cycle is the content. -/
theorem take_drop_eq_cycle {content : Bytes} {start count : Nat}
    (within : start + count ≤ content.length) :
    (content.drop start).take count = cycle content start count := by
  apply List.ext_getElem?
  intro i
  by_cases inside : i < count
  · have here : start + i < content.length := by omega
    simp [cycle, inside, Nat.mod_eq_of_lt here, List.getElem?_eq_getElem here]
  · rw [List.getElem?_eq_none, List.getElem?_eq_none]
    · rw [length_cycle]
      omega
    · rw [List.length_take]
      omega

/-- A read that is repeated while it is interrupted is answered in the end. -/
inductive Answered (input : Input ρ) (count : Nat) : ρ → Prop
  | now {s : ρ} (whole : (input.read count s).1 ≠ .error .interrupted) : Answered input count s
  | later {s t : ρ} (cut : input.read count s = (.error .interrupted, t))
      (again : Answered input count t) : Answered input count s

/-- A read that is not interrupted, where the reader stands at a place in its content: it gives some
of what is left, as much as was asked for at most, and nothing at the end alone. -/
structure Piece (content : Bytes) (Stands : Nat → ρ → Prop) (place count : Nat) (bytes : Bytes)
    (next : ρ) : Prop where
  fits : bytes.length ≤ count
  some_bytes : place < content.length → bytes ≠ []
  eq : bytes = (content.drop place).take bytes.length
  stands : Stands (place + bytes.length) next

theorem Piece.eq_cycle {content : Bytes} {Stands : Nat → ρ → Prop} {place count : Nat}
    {bytes : Bytes} {next : ρ} (h : Piece content Stands place count bytes next)
    (within : place ≤ content.length) : bytes = cycle content place bytes.length := by
  have length := congrArg List.length h.eq
  rw [List.length_take, List.length_drop] at length
  rw [← take_drop_eq_cycle (by omega)]
  exact h.eq

/-- A reader may give fewer bytes than it was asked for. -/
theorem Piece.of_take {content : Bytes} {Stands : Nat → ρ → Prop} {place limit count : Nat}
    {next : ρ} (some_limit : 0 < limit) (fits : limit ≤ count)
    (stands : Stands (place + ((content.drop place).take limit).length) next) :
    Piece content Stands place count ((content.drop place).take limit) next where
  fits := Nat.le_trans (List.length_take_le ..) fits
  some_bytes before nothing := by
    have length := congrArg List.length nothing
    rw [List.length_take, List.length_drop, List.length_nil] at length
    omega
  eq := List.prefix_iff_eq_take.mp (List.take_prefix ..)
  stands := stands

/-- A reader of some content. -/
structure Reader (input : Input ρ) (content : Bytes) (Stands : Nat → ρ → Prop) : Prop where
  within {place : Nat} {s : ρ} (h : Stands place s) : place ≤ content.length
  read {place : Nat} {s : ρ} (h : Stands place s) (count : Nat) (some_room : 0 < count) :
    (∃ bytes next, input.read count s = (.ok bytes, next) ∧
      Piece content Stands place count bytes next) ∨
    ∃ next, input.read count s = (.error .interrupted, next) ∧ Stands place next
  answered {place : Nat} {s : ρ} (h : Stands place s) (count : Nat) (some_room : 0 < count) :
    Answered input count s
  rewind {place : Nat} {s : ρ} (h : Stands place s) :
    ∃ next, input.rewind s = (.ok (), next) ∧ Stands 0 next

/-- What is answered as soon as enough reads are allowed. -/
def Settles {α : Type} (run : Nat → Option α) (answer : α) : Prop :=
  ∃ enough, ∀ reads ≥ enough, run reads = some answer

theorem Settles.unique {α : Type} {run : Nat → Option α} {a b : α} (h : Settles run a)
    (h' : Settles run b) : a = b := by
  obtain ⟨here, first⟩ := h
  obtain ⟨there, second⟩ := h'
  have one := first _ (Nat.le_max_left here there)
  have two := second _ (Nat.le_max_right here there)
  exact Option.some.inj (one.symm.trans two)

/-- A fill in its course. -/
structure Filling (ρ : Type) where
  wanted : Nat
  rewound : Bool
  filled : Bytes
  state : ρ

namespace Filling

/-- A fill at its beginning. -/
def opened (wanted : Nat) (s : ρ) : Filling ρ := ⟨wanted, false, [], s⟩

/-- What comes of a fill in at most so many more reads. -/
def result (input : Input ρ) (reads : Nat) (f : Filling ρ) : Option (Filled × ρ) :=
  fillRewinding input reads f.wanted f.rewound f.filled.toArray f.state

/-- A read after which the fill goes on. -/
inductive Onward (input : Input ρ) (f : Filling ρ) : Filling ρ → Prop
  | piece (room : 0 < f.wanted) {bytes : Bytes} {next : ρ} (some_bytes : bytes ≠ [])
      (read : input.read f.wanted f.state = (.ok bytes, next)) :
      Onward input f ⟨f.wanted - bytes.length, false, f.filled ++ bytes, next⟩
  | ended (room : 0 < f.wanted) {last next : ρ} (first : f.rewound = false)
      (read : input.read f.wanted f.state = (.ok [], last))
      (rewound : input.rewind last = (.ok (), next)) :
      Onward input f ⟨f.wanted, true, f.filled, next⟩
  | interrupted (room : 0 < f.wanted) {next : ρ}
      (read : input.read f.wanted f.state = (.error .interrupted, next)) :
      Onward input f { f with state := next }

/-- What happens in a fill up to some point of it. -/
abbrev Leads (input : Input ρ) : Filling ρ → Filling ρ → Prop :=
  Relation.ReflTransGen (Onward input)

variable {f g : Filling ρ}

theorem result_full (full : f.wanted = 0) (reads : Nat) :
    f.result input reads = some (⟨f.filled, none⟩, f.state) := by
  rw [result, full]
  cases reads <;> rfl

theorem Onward.result_eq (h : Onward input f g) (reads : Nat) :
    f.result input (reads + 1) = g.result input reads := by
  obtain ⟨wanted, rewound, filled, s⟩ := f
  cases wanted with
  | zero => cases h <;> contradiction
  | succ wanted =>
      cases h with
      | @piece room bytes next some_bytes read =>
          cases bytes with
          | nil => contradiction
          | cons b bytes =>
              simp only [result, fillRewinding, read, List.toArray_appendList]
      | ended room first read again =>
          cases first
          simp only [result, fillRewinding, read, again]
          rfl
      | interrupted room read =>
          simp only [result, fillRewinding, read]

theorem Leads.result_eq (h : Leads input f g) :
    ∃ taken, ∀ reads, f.result input (reads + taken) = g.result input reads := by
  induction h with
  | refl => exact ⟨0, fun _ => rfl⟩
  | tail _ onward ih =>
      obtain ⟨taken, same⟩ := ih
      refine ⟨1 + taken, fun reads => ?_⟩
      rw [← Nat.add_assoc, same, onward.result_eq]

/-- What a fill comes to if one more read ends it. -/
theorem Leads.settles (h : Leads input f g) {answer : Filled × ρ}
    (ends : ∀ reads, g.result input (reads + 1) = some answer) :
    Settles (f.result input ·) answer := by
  obtain ⟨taken, same⟩ := h.result_eq
  refine ⟨1 + taken, fun reads enough => ?_⟩
  obtain ⟨more, rfl⟩ := Nat.exists_eq_add_of_le' enough
  change f.result input (more + (1 + taken)) = some answer
  rw [← Nat.add_assoc, same, ends]

theorem result_failed {error : DiskError} {next : ρ} (room : 0 < f.wanted)
    (read : input.read f.wanted f.state = (.error error, next)) (final : error ≠ .interrupted)
    (reads : Nat) : f.result input (reads + 1) = some (⟨f.filled, some error⟩, next) := by
  obtain ⟨wanted, rewound, filled, s⟩ := f
  cases wanted with
  | zero => contradiction
  | succ wanted =>
      cases error with
      | interrupted => contradiction
      | notFound | permissionDenied | notDirectory | isDirectory | noSpace | nameTooLong
      | invalidName | emptyInput | other _ => simp only [result, fillRewinding, read]

theorem result_unwound {error : DiskError} {last next : ρ} (room : 0 < f.wanted)
    (first : f.rewound = false) (read : input.read f.wanted f.state = (.ok [], last))
    (stuck : input.rewind last = (.error error, next)) (reads : Nat) :
    f.result input (reads + 1) = some (⟨f.filled, some error⟩, next) := by
  obtain ⟨wanted, rewound, filled, s⟩ := f
  cases wanted with
  | zero => contradiction
  | succ wanted =>
      cases first
      simp only [result, fillRewinding, read, stuck]
      rfl

theorem result_empty {last : ρ} (room : 0 < f.wanted) (again : f.rewound = true)
    (read : input.read f.wanted f.state = (.ok [], last)) (reads : Nat) :
    f.result input (reads + 1) = some (⟨f.filled, some .emptyInput⟩, last) := by
  obtain ⟨wanted, rewound, filled, s⟩ := f
  cases wanted with
  | zero => contradiction
  | succ wanted =>
      cases again
      simp only [result, fillRewinding, read]
      rfl

variable {content : Bytes} {Stands : Nat → ρ → Prop} {place : Nat}

/-- Whatever interruptions come first, a reader gives a piece in the end. -/
theorem leads_to_piece (reader : Reader input content Stands) (room : 0 < f.wanted)
    (stands : Stands place f.state) :
    ∃ s bytes next, Leads input f { f with state := s } ∧
      input.read f.wanted s = (.ok bytes, next) ∧
      Piece content Stands place f.wanted bytes next := by
  obtain ⟨wanted, rewound, filled, s⟩ := f
  have answered : Answered input wanted s := reader.answered stands wanted room
  induction answered with
  | @now s whole =>
      cases reader.read stands wanted room with
      | inl given =>
          obtain ⟨bytes, next, read, piece⟩ := given
          exact ⟨s, bytes, next, .refl, read, piece⟩
      | inr cut =>
          obtain ⟨next, read, -⟩ := cut
          rw [read] at whole
          contradiction
  | @later s t cut _ ih =>
      have still : Stands place t := by
        cases reader.read stands wanted room with
        | inl given =>
            obtain ⟨bytes, next, read, -⟩ := given
            rw [cut] at read
            cases read
        | inr interrupted =>
            obtain ⟨next, read, there⟩ := interrupted
            rw [cut] at read
            cases read
            exact there
      obtain ⟨last, bytes, next, leads, read, piece⟩ := ih room still
      exact ⟨last, bytes, next, .head (.interrupted room cut) leads, read, piece⟩

/-- Where the content has ended the reader is rewound. -/
theorem leads_to_start (reader : Reader input content Stands) (room : 0 < f.wanted)
    (first : f.rewound = false) (stands : Stands content.length f.state) :
    ∃ s, Leads input f ⟨f.wanted, true, f.filled, s⟩ ∧ Stands 0 s := by
  obtain ⟨s, bytes, last, leads, read, piece⟩ := leads_to_piece reader room stands
  have nothing : bytes = [] := by simpa only [List.drop_length, List.take_nil] using piece.eq
  subst nothing
  obtain ⟨start, again, began⟩ := reader.rewind piece.stands
  have ended : Onward input { f with state := s } ⟨f.wanted, true, f.filled, start⟩ :=
    Onward.ended (f := { f with state := s }) room first read again
  exact ⟨start, leads.tail ended, began⟩

/-- Short of the end some bytes are read. -/
theorem leads_on (reader : Reader input content Stands) (room : 0 < f.wanted)
    (stands : Stands place f.state) (short : place < content.length) :
    ∃ bytes next, Leads input f ⟨f.wanted - bytes.length, false, f.filled ++ bytes, next⟩ ∧
      bytes ≠ [] ∧ bytes.length ≤ f.wanted ∧ bytes = cycle content place bytes.length ∧
      Stands (place + bytes.length) next := by
  obtain ⟨s, bytes, next, leads, read, piece⟩ := leads_to_piece reader room stands
  have some_bytes := piece.some_bytes short
  have given : Onward input { f with state := s }
      ⟨f.wanted - bytes.length, false, f.filled ++ bytes, next⟩ :=
    Onward.piece (f := { f with state := s }) room some_bytes read
  exact ⟨bytes, next, leads.tail given, some_bytes, piece.fits,
    piece.eq_cycle (Nat.le_of_lt short), piece.stands⟩

/-- Some bytes are read next, from the beginning again if the reader stands at the end. -/
theorem leads_to_bytes (reader : Reader input content Stands) (some_content : content ≠ [])
    (room : 0 < f.wanted) (stands : Stands place f.state)
    (fresh : f.rewound = true → place < content.length) :
    ∃ bytes next last, Leads input f ⟨f.wanted - bytes.length, false, f.filled ++ bytes, next⟩ ∧
      bytes ≠ [] ∧ bytes.length ≤ f.wanted ∧ bytes = cycle content place bytes.length ∧
      Stands last next ∧ last % content.length = (place + bytes.length) % content.length := by
  by_cases at_end : place = content.length
  · subst at_end
    have first : f.rewound = false := by
      cases flag : f.rewound with
      | false => rfl
      | true => exact absurd (fresh flag) (Nat.lt_irrefl _)
    obtain ⟨s, rewound, began⟩ := leads_to_start reader room first stands
    have short : 0 < content.length := List.length_pos_iff.mpr some_content
    obtain ⟨bytes, next, leads, some_bytes, fits, here, there⟩ :=
      leads_on (f := ⟨f.wanted, true, f.filled, s⟩) reader room began short
    refine ⟨bytes, next, 0 + bytes.length, rewound.trans leads, some_bytes, fits, ?_, there, ?_⟩
    · rw [cycle_congr content (b := 0) (by rw [Nat.mod_self, Nat.zero_mod])]
      exact here
    · rw [Nat.add_mod_left, Nat.zero_add]
  · have short : place < content.length := Nat.lt_of_le_of_ne (reader.within stands) at_end
    obtain ⟨bytes, next, leads, some_bytes, fits, here, there⟩ := leads_on reader room stands short
    exact ⟨bytes, next, place + bytes.length, leads, some_bytes, fits, here, there, rfl⟩

/-- A fill from a reader with content goes all the way. -/
theorem leads_to_full (reader : Reader input content Stands) (some_content : content ≠ [])
    (stands : Stands place f.state) (fresh : f.rewound = true → place < content.length) :
    ∃ again last t, Leads input f ⟨0, again, f.filled ++ cycle content place f.wanted, t⟩ ∧
      Stands last t ∧ last % content.length = (place + f.wanted) % content.length := by
  induction count : f.wanted using Nat.strongRecOn generalizing f place with
  | _ wanted ih =>
      subst count
      by_cases full : f.wanted = 0
      · obtain ⟨wanted, rewound, filled, s⟩ := f
        cases full
        refine ⟨rewound, place, s, ?_, stands, rfl⟩
        rw [cycle, List.range_zero, List.map_nil, List.append_nil]
      · obtain ⟨bytes, next, middle, leads, some_bytes, fits, here, there, same⟩ :=
          leads_to_bytes reader some_content (Nat.pos_of_ne_zero full) stands fresh
        have less : f.wanted - bytes.length < f.wanted := by
          have := List.length_pos_iff.mpr some_bytes
          omega
        obtain ⟨again, last, t, on, there', same'⟩ :=
          ih _ less (f := ⟨_, false, f.filled ++ bytes, next⟩) there nofun rfl
        have rest : bytes.length + (f.wanted - bytes.length) = f.wanted := Nat.add_sub_of_le fits
        refine ⟨again, last, t, leads.trans ?_, there', ?_⟩
        · rw [← rest, cycle_add, ← here, ← cycle_congr content same, rest, ← List.append_assoc]
          exact on
        · rw [same', Nat.add_mod, same, ← Nat.add_mod, Nat.add_assoc, rest]

/-- A fill from a reader without content gives nothing, however often it is tried. -/
theorem settles_empty (reader : Reader input [] Stands) (room : 0 < f.wanted)
    (first : f.rewound = false) (stands : Stands 0 f.state) :
    ∃ last, Settles (f.result input ·) (⟨f.filled, some .emptyInput⟩, last) ∧ Stands 0 last := by
  obtain ⟨s, rewound, began⟩ := leads_to_start reader room first stands
  obtain ⟨t, bytes, last, leads, read, piece⟩ :=
    leads_to_piece (f := ⟨f.wanted, true, f.filled, s⟩) reader room began
  have nothing : bytes = [] := by simpa only [List.drop_nil, List.take_nil] using piece.eq
  subst nothing
  have whole : Leads input f ⟨f.wanted, true, f.filled, t⟩ := rewound.trans leads
  exact ⟨last, whole.settles fun reads =>
    result_empty (f := ⟨f.wanted, true, f.filled, t⟩) room rfl read reads, piece.stands⟩

end Filling

/-- Buffers filled one after another, with at most so many reads for each. -/
def fillAll (input : Input ρ) (reads : Nat) : List Nat → ρ → Option (List Filled × ρ)
  | [], s => some ([], s)
  | size :: sizes, s => do
      let (filled, s) ← (Filling.opened size s).result input reads
      let (fills, s) ← fillAll input reads sizes s
      return (filled :: fills, s)

theorem fillAll_cons {size : Nat} {sizes : List Nat} {s t last : ρ} {filled : Filled}
    {fills : List Filled} (first : Settles ((Filling.opened size s).result input ·) (filled, t))
    (others : Settles (fillAll input · sizes t) (fills, last)) :
    Settles (fillAll input · (size :: sizes) s) (filled :: fills, last) := by
  obtain ⟨here, first⟩ := first
  obtain ⟨there, others⟩ := others
  refine ⟨max here there, fun reads enough => ?_⟩
  have filled : (Filling.opened size s).result input reads = some (filled, t) :=
    first reads (Nat.le_trans (Nat.le_max_left ..) enough)
  have fills : fillAll input reads sizes t = some (fills, last) :=
    others reads (Nat.le_trans (Nat.le_max_right ..) enough)
  simp only [fillAll, filled, fills, Option.bind_eq_bind, Option.bind_some, Option.pure_def]

variable {content : Bytes} {Stands : Nat → ρ → Prop}

/-- The reader keeps its place from one buffer to the next. -/
theorem fillAll_cycle (reader : Reader input content Stands) (some_content : content ≠ [])
    (sizes : List Nat) {place : Nat} {s : ρ} (stands : Stands place s) :
    ∃ (buffers : List Bytes) (last : ρ), Settles (fillAll input · sizes s) (buffers.map (⟨·, none⟩), last) ∧
      buffers.map List.length = sizes ∧ buffers.flatten = cycle content place sizes.sum := by
  induction sizes generalizing place s with
  | nil => exact ⟨[], s, ⟨0, fun _ _ => rfl⟩, rfl, rfl⟩
  | cons size sizes ih =>
      obtain ⟨again, middle, t, leads, there, same⟩ :=
        Filling.leads_to_full (f := .opened size s) reader some_content stands nofun
      obtain ⟨buffers, last, others, lengths, bytes⟩ := ih there
      have first := leads.settles fun reads => Filling.result_full rfl (reads + 1)
      refine ⟨cycle content place size :: buffers, last, fillAll_cons first others, ?_, ?_⟩
      · rw [List.map_cons, length_cycle, lengths]
      · rw [List.flatten_cons, bytes, List.sum_cons, cycle_add, cycle_congr content same]
        rfl

/-- Nothing is put into a buffer, and only one without room is filled. -/
theorem fillAll_empty (reader : Reader input [] Stands) (sizes : List Nat) {s : ρ}
    (stands : Stands 0 s) :
    ∃ last, Settles (fillAll input · sizes s)
      (sizes.map fun size => ⟨[], if size = 0 then none else some .emptyInput⟩, last) := by
  induction sizes generalizing s with
  | nil => exact ⟨s, 0, fun _ _ => rfl⟩
  | cons size sizes ih =>
      by_cases full : size = 0
      · obtain ⟨last, others⟩ := ih stands
        refine ⟨last, ?_⟩
        rw [List.map_cons, if_pos full]
        exact fillAll_cons ⟨0, fun reads _ => Filling.result_full full reads⟩ others
      · obtain ⟨next, first, there⟩ := Filling.settles_empty (f := .opened size s) reader
          (Nat.pos_of_ne_zero full) rfl stands
        obtain ⟨last, others⟩ := ih there
        refine ⟨last, ?_⟩
        rw [List.map_cons, if_neg full]
        exact fillAll_cons first others

/-- A failure that a fill meets in its course: of a read that was not just interrupted, or of the
rewind at the end of the content. -/
inductive Filling.Fails (input : Input ρ) (f : Filling ρ) (error : DiskError) (next : ρ) : Prop
  | read (room : 0 < f.wanted) (read : input.read f.wanted f.state = (.error error, next))
      (final : error ≠ .interrupted)
  | rewind (room : 0 < f.wanted) {last : ρ} (first : f.rewound = false)
      (read : input.read f.wanted f.state = (.ok [], last))
      (stuck : input.rewind last = (.error error, next))

theorem Filling.Leads.fails {f g : Filling ρ} (h : Leads input f g) {error : DiskError} {next : ρ}
    (fails : g.Fails input error next) :
    Settles (f.result input ·) (⟨g.filled, some error⟩, next) := by
  apply h.settles
  cases fails with
  | read room read final => exact result_failed room read final
  | rewind room first read stuck => exact result_unwound room first read stuck

namespace Filling

variable {f g : Filling ρ}

/-- A read does not leave open what comes of a fill. -/
theorem onward_or_ends (input : Input ρ) (room : 0 < f.wanted) :
    (∃ g, Onward input f g) ∨ ∃ answer, ∀ reads, f.result input (reads + 1) = some answer := by
  match read : input.read f.wanted f.state with
  | (.ok [], last) =>
      cases flag : f.rewound with
      | true => exact .inr ⟨_, result_empty room flag read⟩
      | false =>
          match rewind : input.rewind last with
          | (.ok (), next) => exact .inl ⟨_, .ended room flag read rewind⟩
          | (.error error, next) => exact .inr ⟨_, result_unwound room flag read rewind⟩
  | (.ok (b :: bytes), next) => exact .inl ⟨_, .piece room (List.cons_ne_nil b bytes) read⟩
  | (.error error, next) =>
      by_cases cut : error = .interrupted
      · subst cut
        exact .inl ⟨_, .interrupted room read⟩
      · exact .inr ⟨_, result_failed room read cut⟩

/-- Reads that a fill still takes at most where no read is interrupted. -/
def readsLeft (f : Filling ρ) : Nat := 2 * f.wanted + if f.rewound then 1 else 2

theorem Onward.readsLeft_lt (h : Onward input f g)
    (whole : ∀ count s, (input.read count s).1 ≠ .error .interrupted) :
    g.readsLeft < f.readsLeft := by
  cases h with
  | @piece room bytes next some_bytes read =>
      have := List.length_pos_iff.mpr some_bytes
      simp only [readsLeft, Bool.false_eq_true, if_false]
      split <;> omega
  | ended room first read rewound =>
      simp only [readsLeft, first, Bool.false_eq_true, if_false, if_true]
      omega
  | interrupted room read =>
      have := whole f.wanted f.state
      rw [read] at this
      contradiction

/-- Without interruptions the number of reads is bounded by the room. -/
theorem result_readsLeft (whole : ∀ count s, (input.read count s).1 ≠ .error .interrupted)
    (f : Filling ρ) : ∃ answer, ∀ reads ≥ f.readsLeft, f.result input reads = some answer := by
  induction left : f.readsLeft using Nat.strongRecOn generalizing f with
  | _ left ih =>
      subst left
      by_cases full : f.wanted = 0
      · exact ⟨_, fun reads _ => result_full full reads⟩
      · have some_left : 1 ≤ f.readsLeft := by
          simp only [readsLeft]
          split <;> omega
        cases onward_or_ends input (Nat.pos_of_ne_zero full) with
        | inl goes_on =>
            obtain ⟨g, onward⟩ := goes_on
            have less := onward.readsLeft_lt whole
            obtain ⟨answer, same⟩ := ih _ less g rfl
            refine ⟨answer, fun reads enough => ?_⟩
            obtain ⟨reads, rfl⟩ := Nat.exists_eq_add_of_le' (Nat.le_trans some_left enough)
            rw [onward.result_eq]
            exact same reads (by omega)
        | inr ends =>
            obtain ⟨answer, same⟩ := ends
            refine ⟨answer, fun reads enough => ?_⟩
            obtain ⟨reads, rfl⟩ := Nat.exists_eq_add_of_le' (Nat.le_trans some_left enough)
            exact same reads

end Filling

namespace OpenInput

/-- A file on the disk is read in whole pieces. -/
theorem reader (bytes : Bytes) :
    Reader OpenInput.input bytes fun place s => s = ⟨.data bytes, bytes.drop place⟩ ∧ place ≤ bytes.length where
  within h := h.2
  read := by
    intro place s h count room
    obtain ⟨rfl, within⟩ := h
    have length : ((bytes.drop place).take count).length = min count (bytes.length - place) := by
      rw [List.length_take, List.length_drop]
    refine .inl ⟨_, ⟨.data bytes, (bytes.drop place).drop count⟩, rfl,
      .of_take room (Nat.le_refl count) ⟨?_, ?_⟩⟩
    · rw [List.drop_drop, OpenInput.mk.injEq]
      refine ⟨rfl, List.drop_eq_drop_iff.mpr ?_⟩
      omega
    · omega
  answered := by
    intro place s h count room
    obtain ⟨rfl, within⟩ := h
    exact .now nofun
  rewind := by
    intro place s h
    obtain ⟨rfl, within⟩ := h
    exact ⟨_, rfl, rfl, Nat.zero_le _⟩

/-- The number of reads allowed to a fill from a file never cuts it short. -/
theorem fill_settles (count : Nat) (s : OpenInput) :
    Settles (fillRewinding OpenInput.input · count false #[] s) (s.fill count) := by
  have whole : ∀ count (s : OpenInput), (OpenInput.input.read count s).1 ≠ .error .interrupted := by
    intro count s
    obtain ⟨content, rest⟩ := s
    cases content <;> nofun
  obtain ⟨answer, same⟩ := Filling.result_readsLeft whole (.opened count s)
  have filled : fillRewinding OpenInput.input (readsNeeded count) count false #[] s = some answer :=
    same _ (Nat.le_refl _)
  rw [fill, filled]
  exact ⟨_, same⟩

/-- A file with something in it is read as an endless cycle. -/
theorem fill_eq_cycle {bytes : Bytes} (some_bytes : bytes ≠ []) {place : Nat}
    (within : place ≤ bytes.length) (count : Nat) :
    ∃ last, fill count ⟨.data bytes, bytes.drop place⟩ =
        (⟨cycle bytes place count, none⟩, ⟨.data bytes, bytes.drop last⟩) ∧
      last ≤ bytes.length ∧ last % bytes.length = (place + count) % bytes.length := by
  obtain ⟨again, last, t, leads, stands, same⟩ :=
    Filling.leads_to_full (f := .opened count ⟨.data bytes, bytes.drop place⟩) (reader bytes)
      some_bytes ⟨rfl, within⟩ nofun
  obtain ⟨rfl, within⟩ := stands
  refine ⟨last, ?_, within, same⟩
  apply (fill_settles count _).unique
  exact leads.settles fun reads => Filling.result_full rfl (reads + 1)

end OpenInput

/-- Buffers of any sizes filled one after another hold the content read cyclically from where the
reader stood, and all of them are full. A reader without content leaves every buffer with room empty
and says so. A failure of the reader ends a fill and is returned as it is. -/
theorem fills_cyclically (input : Input ρ) :
    (∀ {content : Bytes} {Stands : Nat → ρ → Prop}, Reader input content Stands → content ≠ [] →
      ∀ {place : Nat} {s : ρ}, Stands place s → ∀ sizes : List Nat,
        ∃ (buffers : List Bytes) (last : ρ), Settles (fillAll input · sizes s) (buffers.map (⟨·, none⟩), last) ∧
          buffers.map List.length = sizes ∧
          buffers.flatten = cycle content place sizes.sum) ∧
    (∀ {Stands : Nat → ρ → Prop}, Reader input [] Stands → ∀ {s : ρ}, Stands 0 s →
      ∀ sizes : List Nat, ∃ last, Settles (fillAll input · sizes s)
        (sizes.map fun size => ⟨[], if size = 0 then none else some .emptyInput⟩, last)) ∧
    (∀ {size : Nat} {s : ρ} {f : Filling ρ}, Filling.Leads input (.opened size s) f →
      ∀ {error : DiskError} {next : ρ}, f.Fails input error next →
        Settles (fillRewinding input · size false #[] s) (⟨f.filled, some error⟩, next)) :=
  ⟨fun reader some_content _ _ stands sizes => fillAll_cycle reader some_content sizes stands,
    fun reader _ stands sizes => fillAll_empty reader sizes stands,
    fun leads _ _ fails => leads.fails fails⟩

/-- A reader that gives two bytes at most, and is interrupted before each read. -/
structure Fitful where
  place : Nat
  cut : Bool

def Fitful.pieces (content : Bytes) : Input Fitful where
  read count s :=
    if s.cut then (.error .interrupted, { s with cut := false })
    else
      let bytes := (content.drop s.place).take (min 2 count)
      (.ok bytes, ⟨s.place + bytes.length, true⟩)
  rewind s := (.ok (), { s with place := 0 })

theorem Fitful.reader (content : Bytes) :
    Reader (pieces content) content fun place s => s.place = place ∧ place ≤ content.length where
  within h := h.2
  read := by
    intro place s h count room
    obtain ⟨place, cut⟩ := s
    obtain ⟨rfl, within⟩ := h
    cases cut with
    | true => exact .inr ⟨_, rfl, rfl, within⟩
    | false =>
        refine .inl ⟨_, _, rfl, .of_take (by omega) (by omega) ⟨rfl, ?_⟩⟩
        dsimp only at within ⊢
        rw [List.length_take, List.length_drop]
        omega
  answered := by
    intro place s h count room
    obtain ⟨place, cut⟩ := s
    cases cut with
    | true => exact .later rfl (.now nofun)
    | false => exact .now nofun
  rewind h := ⟨_, rfl, rfl, Nat.zero_le _⟩

/-- Standing at the end of three bytes, with a buffer much larger than they are and one without
room; without a byte; and a directory, which cannot be read. -/
theorem fitful_fills :
    (∃ (buffers : List Bytes) (last : Fitful),
      Settles (fillAll (Fitful.pieces [1, 2, 3]) · [8, 0, 2] ⟨3, true⟩)
        (buffers.map (⟨·, none⟩), last) ∧
      buffers.map List.length = [8, 0, 2] ∧
      buffers.flatten = [1, 2, 3, 1, 2, 3, 1, 2, 3, 1]) ∧
    (∃ last, Settles (fillAll (Fitful.pieces []) · [0, 4] ⟨0, true⟩)
      ([⟨[], none⟩, ⟨[], some .emptyInput⟩], last)) ∧
    Settles (fillRewinding OpenInput.input · 4 false #[] (.ofContent .directory))
      (⟨[], some .isDirectory⟩, .ofContent .directory) := by
  refine ⟨?_, ?_, ?_⟩
  · exact (fills_cyclically _).1 (Fitful.reader [1, 2, 3]) (by decide) ⟨rfl, by decide⟩ [8, 0, 2]
  · exact (fills_cyclically _).2.1 (Fitful.reader []) ⟨rfl, by decide⟩ [0, 4]
  · exact (fills_cyclically OpenInput.input).2.2 .refl (.read (by decide) rfl (by decide))

end BulkStream.Storage
