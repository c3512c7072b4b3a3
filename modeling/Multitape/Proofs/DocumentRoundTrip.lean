/-
Module: Multitape.Proofs.DocumentRoundTrip
Purpose: Values go out as documents and come back. Of each reader it is told which documents it reads and
  as what: symbols, numbers, texts and flags have one document each, a direction has two, and a structure
  has as many as there are records and lists with the same components. What has been read is written in one of
  these ways, and from then on it stays as it is.
Main exports: Document.Components, Document.components?_eq_some_iff, Document.items?_eq_some_iff,
  Direction.ofDocument?_eq_some_iff, Alphabet.ofDocument?_eq_some_iff, Transition.ofDocument?_eq_some_iff,
  State.ofDocument?_eq_some_iff, Rejection.ofDocument?_eq_some_iff, Document.RoundTrips,
  Document.documents_round_trip
-/
import Multitape.Document.Codec

namespace Multitape

open Document

/-- All items of a list are read if each of them is. -/
theorem mapM_eq_some_iff {α β : Type} {read : α → Option β} {items : List α} {values : List β} :
    items.mapM read = some values ↔ items.map read = values.map some := by
  induction items generalizing values with
  | nil => cases values <;> simp
  | cons item items ih =>
      rw [List.mapM_cons]
      cases values with
      | nil => simp [Option.bind_eq_some_iff]
      | cons value values => simp [Option.bind_eq_some_iff, ih]

namespace Document

/-! ### Single values -/

variable {document : Document}

theorem symbol?_eq_some_iff {c : Char} : document.symbol? = some c ↔ document = symbol c := by
  cases document with
  | text value =>
      have single : value = c.toString ↔ value.toList = [c] := by
        rw [← String.toList_inj]
        simp
      simp only [symbol?, symbol, Document.text.injEq, single]
      split <;> simp_all
  | _ => simp [symbol?, symbol]

theorem natural?_eq_some_iff {n : Nat} :
    document.natural? = some n ↔ document = natural n ∧ n < Text.wordBound := by
  cases document with
  | number digits places =>
      cases places with
      | zero =>
          simp only [natural?, natural, Document.number.injEq]
          grind
      | succ places => simp [natural?, natural]
  | _ => simp [natural?, natural]

theorem place?_eq_some_iff {n : Nat} :
    document.place? = some n ↔ document = place n ∧ n < Text.wordBound :=
  natural?_eq_some_iff

theorem text?_eq_some_iff {value : String} : document.text? = some value ↔ document = text value := by
  cases document <;> simp [text?]

theorem flag?_eq_some_iff {value : Bool} : document.flag? = some value ↔ document = flag value := by
  cases document <;> simp [flag?]

/-! ### Lists -/

section Lists

variable {α : Type} {decode : Document → Option α} {values : List α}

/-- What is read as a list is a list, and its items are read one by one. -/
theorem items?_eq_some_iff : document.items? decode = some values ↔
    ∃ items, document = list items ∧ items.map decode = values.map some := by
  cases document <;> simp [items?, mapM_eq_some_iff]

/-- Values that come back one by one come back in a list. -/
theorem items?_map {encode : α → Document} (each : ∀ value ∈ values, decode (encode value) = some value) :
    (list (values.map encode)).items? decode = some values :=
  items?_eq_some_iff.2 ⟨_, rfl, by simpa using each⟩

/-- Each value of a list has been read from an item. -/
theorem exists_item_of_mem (read : document.items? decode = some values) {value : α}
    (mem : value ∈ values) : ∃ item, decode item = some value := by
  obtain ⟨items, -, same⟩ := items?_eq_some_iff.1 read
  obtain ⟨item, -, found⟩ := List.mem_map.1 (same ▸ List.mem_map_of_mem mem)
  exact ⟨item, found⟩

/-- Where each value has one document, a list of values has one too. -/
theorem map_eq_map_some_iff {encode : α → Document} {items : List Document}
    (unique : ∀ item value, decode item = some value ↔ item = encode value) :
    items.map decode = values.map some ↔ items = values.map encode := by
  induction items generalizing values with
  | nil => cases values <;> simp
  | cons item items ih => cases values <;> simp [unique, ih]

theorem symbols?_eq_some_iff {cs : List Char} :
    document.items? symbol? = some cs ↔ document = symbols cs := by
  simp only [items?_eq_some_iff, map_eq_map_some_iff fun _ _ => symbol?_eq_some_iff]
  simp [symbols]

end Lists

/-! ### Structures -/

/-- The components of a document, under some names: a record has a value for each of the names, whatever else it
    has, and a list has as many items. -/
inductive Components (names : List String) : Document → List Document → Prop where
  | record {fields : List (String × Document)} {values : List Document}
      (found : names.map (field? · fields) = values.map some) : Components names (record fields) values
  | list {values : List Document} (length : values.length = names.length) :
      Components names (list values) values

variable {names : List String} {values : List Document}

theorem fields?_eq_some_iff : document.fields? names = some values ↔
    ∃ fields, document = record fields ∧ names.map (field? · fields) = values.map some := by
  cases document <;> simp [fields?, mapM_eq_some_iff]

theorem components?_eq_some_iff :
    document.components? names = some values ↔ Components names document values := by
  constructor
  · intro read
    cases document with
    | list items =>
        obtain ⟨length, rfl⟩ : items.length = names.length ∧ items = values := by
          simpa [components?] using read
        exact .list length
    | record fields =>
        exact .record (mapM_eq_some_iff.1 read)
    | _ => cases read
  · rintro (found | length)
    · exact fields?_eq_some_iff.2 ⟨_, rfl, found⟩
    · rw [components?, if_pos length]

end Document

/-! ### Directions and alphabets -/

theorem Direction.ofName?_eq_some_iff {name : String} {direction : Direction} :
    ofName? name = some direction ↔ name = direction.name := by
  constructor
  · intro read
    unfold ofName? at read
    have named := List.find?_some read
    exact (beq_iff_eq.1 named).symm
  · rintro rfl
    cases direction <;> decide

/-- A direction is its name, or a record of one field with that name that holds nothing. -/
theorem Direction.ofDocument?_eq_some_iff {document : Document} {direction : Direction} :
    ofDocument? document = some direction ↔
      document = direction.toDocument ∨ document = record [(direction.name, null)] := by
  unfold ofDocument? toDocument
  split
  · simp [ofName?_eq_some_iff]
  · simp [ofName?_eq_some_iff]
  · grind

/-- An alphabet is read from any row of its symbols. -/
theorem Alphabet.ofDocument?_eq_some_iff {document : Document} {alphabet : Alphabet} :
    ofDocument? document = some alphabet ↔
      ∃ cs, Components ["symbols"] document [Document.symbols cs] ∧ alphabet = ofList cs := by
  constructor
  · intro read
    unfold ofDocument? at read
    split at read
    · rename_i row found
      obtain ⟨cs, spelt, same⟩ := Option.map_eq_some_iff.1 read
      obtain rfl := symbols?_eq_some_iff.1 spelt
      exact ⟨cs, components?_eq_some_iff.1 found, same.symm⟩
    · cases read
  · rintro ⟨cs, components, rfl⟩
    rw [ofDocument?, components?_eq_some_iff.2 components]
    simp only [symbols?_eq_some_iff.2 rfl, Option.map_some]

/-! ### Rules, states and rejections -/

/-- The numbers of a rule have 64 bits. -/
structure Transition.InRange (transition : Transition) : Prop where
  id : transition.id < Text.wordBound
  source : transition.source < Text.wordBound
  target : transition.target < Text.wordBound

theorem Transition.ofDocument?_eq_some_iff {document : Document} {transition : Transition} :
    ofDocument? document = some transition ↔ transition.InRange ∧ ∃ directions,
      Components ["id", "source", "target", "read", "write", "directions"] document
        [natural transition.id, place transition.source, place transition.target,
          Document.symbols transition.read, Document.symbols transition.write, directions] ∧
      directions.items? Direction.ofDocument? = some transition.directions := by
  unfold ofDocument?
  simp only [Option.bind_eq_bind, Option.bind_eq_some_iff, components?_eq_some_iff]
  constructor
  · rintro ⟨values, components, read⟩
    split at read
    · simp only [Option.bind_eq_some_iff, natural?_eq_some_iff, place?_eq_some_iff,
        symbols?_eq_some_iff] at read
      obtain ⟨id, ⟨rfl, idBound⟩, source, ⟨rfl, sourceBound⟩, target, ⟨rfl, targetBound⟩, _, rfl, _, rfl,
        _, moves, ⟨⟩⟩ := read
      exact ⟨⟨idBound, sourceBound, targetBound⟩, _, components, moves⟩
    · cases read
  · rintro ⟨inRange, directions, components, moves⟩
    refine ⟨_, components, ?_⟩
    simp only [natural?_eq_some_iff.2 ⟨rfl, inRange.id⟩, place?_eq_some_iff.2 ⟨rfl, inRange.source⟩,
      place?_eq_some_iff.2 ⟨rfl, inRange.target⟩, symbols?_eq_some_iff.2 rfl, moves]
    rfl

/-- The rules of a state are in range. -/
def State.InRange (state : State) : Prop := ∀ transition ∈ state.transitions, transition.InRange

theorem State.ofDocument?_eq_some_iff {document : Document} {state : State} :
    ofDocument? document = some state ↔ ∃ transitions,
      Components ["name", "initial", "accepting", "transitions"] document
        [text state.name, flag state.initial, flag state.accepting, transitions] ∧
      transitions.items? Transition.ofDocument? = some state.transitions := by
  unfold ofDocument?
  simp only [Option.bind_eq_bind, Option.bind_eq_some_iff, components?_eq_some_iff]
  constructor
  · rintro ⟨values, components, read⟩
    split at read
    · simp only [Option.bind_eq_some_iff, text?_eq_some_iff, flag?_eq_some_iff] at read
      obtain ⟨_, rfl, _, rfl, _, rfl, _, rules, ⟨⟩⟩ := read
      exact ⟨_, components, rules⟩
    · cases read
  · rintro ⟨transitions, components, rules⟩
    refine ⟨_, components, ?_⟩
    simp only [text?_eq_some_iff.2 rfl, flag?_eq_some_iff.2 rfl, rules]
    rfl

/-- The documents of a rejection: a record of one field, which names its form. -/
inductive Rejection.Told : Document → Rejection → Prop where
  | foreignInput (c : Char) : Told (record [("InvalidInputSymbol", symbol c)]) (foreignInput c)
  | stuck {fields : List (String × Document)} {state : String} {cs : List Char}
      (found : ["state", "symbols"].map (field? · fields) = [text state, Document.symbols cs].map some) :
      Told (record [("NoApplicableTransition", record fields)]) (stuck state cs)

theorem Rejection.ofDocument?_eq_some_iff {document : Document} {rejection : Rejection} :
    ofDocument? document = some rejection ↔ Told document rejection := by
  constructor
  · intro read
    unfold ofDocument? at read
    split at read
    · obtain ⟨c, spelt, rfl⟩ := Option.map_eq_some_iff.1 read
      obtain rfl := symbol?_eq_some_iff.1 spelt
      exact .foreignInput c
    · simp only [Option.bind_eq_bind, Option.bind_eq_some_iff, fields?_eq_some_iff] at read
      obtain ⟨values, ⟨fields, rfl, found⟩, read⟩ := read
      split at read
      · simp only [Option.bind_eq_some_iff, text?_eq_some_iff, symbols?_eq_some_iff] at read
        obtain ⟨_, rfl, _, rfl, ⟨⟩⟩ := read
        exact .stuck found
      · cases read
    · cases read
  · rintro (c | found)
    · simp only [ofDocument?, symbol?_eq_some_iff.2 rfl, Option.map_some]
    · have values := fields?_eq_some_iff.2 ⟨_, rfl, found⟩
      simp only [ofDocument?, values, Option.bind_eq_bind, Option.bind_some, text?_eq_some_iff.2 rfl,
        symbols?_eq_some_iff.2 rfl]
      rfl

/-! ### There and back -/

/-- Values go out as documents and come back. A value in range comes back as it was. A document that is read
    as a value may be another one than the value goes out as; the value is in range, though, so it comes back
    from the document that it goes out as, and goes out as this one again. -/
structure Document.RoundTrips {α : Type} (encode : α → Document) (decode : Document → Option α)
    (InRange : α → Prop) : Prop where
  reads_back : ∀ value, InRange value → decode (encode value) = some value
  settles : ∀ document value, decode document = some value →
    InRange value ∧ decode (encode value) = some value ∧
      (decode (encode value)).map encode = some (encode value)

namespace Document

theorem RoundTrips.of_inRange {α : Type} {encode : α → Document} {decode : Document → Option α}
    {InRange : α → Prop} (reads_back : ∀ value, InRange value → decode (encode value) = some value)
    (inRange : ∀ document value, decode document = some value → InRange value) :
    RoundTrips encode decode InRange where
  reads_back := reads_back
  settles := by
    intro document value read
    have back := reads_back value (inRange document value read)
    exact ⟨inRange document value read, back, by rw [back, Option.map_some]⟩

theorem roundTrips_direction :
    RoundTrips Direction.toDocument Direction.ofDocument? fun _ => True :=
  .of_inRange (fun _ _ => Direction.ofDocument?_eq_some_iff.2 (Or.inl rfl)) fun _ _ _ => trivial

theorem roundTrips_place : RoundTrips place place? (· < Text.wordBound) :=
  .of_inRange (fun _ bound => place?_eq_some_iff.2 ⟨rfl, bound⟩)
    fun _ _ read => (place?_eq_some_iff.1 read).2

theorem roundTrips_alphabet : RoundTrips Alphabet.toDocument Alphabet.ofDocument? fun _ => True := by
  refine .of_inRange (fun alphabet _ => ?_) fun _ _ _ => trivial
  exact Alphabet.ofDocument?_eq_some_iff.2 ⟨alphabet.toList, .record rfl, alphabet.ofList_toList.symm⟩

theorem roundTrips_transition :
    RoundTrips Transition.toDocument Transition.ofDocument? Transition.InRange := by
  refine .of_inRange (fun transition inRange => ?_)
    fun _ _ read => (Transition.ofDocument?_eq_some_iff.1 read).1
  exact Transition.ofDocument?_eq_some_iff.2 ⟨inRange, _, .record rfl,
    items?_map fun direction _ => roundTrips_direction.reads_back direction trivial⟩

theorem roundTrips_state : RoundTrips State.toDocument State.ofDocument? State.InRange := by
  refine .of_inRange (fun state inRange => ?_) fun document state read transition mem => ?_
  · exact State.ofDocument?_eq_some_iff.2 ⟨_, .record rfl,
      items?_map fun transition mem => roundTrips_transition.reads_back transition (inRange transition mem)⟩
  · obtain ⟨transitions, -, rules⟩ := State.ofDocument?_eq_some_iff.1 read
    obtain ⟨item, told⟩ := exists_item_of_mem rules mem
    exact (roundTrips_transition.settles item transition told).1

theorem roundTrips_rejection :
    RoundTrips Rejection.toDocument Rejection.ofDocument? fun _ => True := by
  refine .of_inRange (fun rejection _ => Rejection.ofDocument?_eq_some_iff.2 ?_) fun _ _ _ => trivial
  cases rejection with
  | foreignInput c => exact .foreignInput c
  | stuck state cs => exact .stuck rfl

/-- An alphabet that has been read goes out in ascending order, each symbol once, and with the symbols that
    the document has. -/
theorem exists_ascending_row {document : Document} {alphabet : Alphabet}
    (read : Alphabet.ofDocument? document = some alphabet) :
    ∃ cs row, Components ["symbols"] document [symbols cs] ∧
      alphabet.toDocument = record [("symbols", symbols row)] ∧ row.Pairwise (· < ·) ∧
      ∀ c, c ∈ row ↔ c ∈ cs := by
  obtain ⟨cs, components, rfl⟩ := Alphabet.ofDocument?_eq_some_iff.1 read
  exact ⟨cs, (Alphabet.ofList cs).toList, components, rfl, (Alphabet.ofList cs).ascending,
    fun _ => Alphabet.mem_ofList⟩

/-- Directions, places, alphabets, rules, states and rejections go out as documents and come back as they
    were, as long as their numbers have 64 bits, and a document that is read as one of them is settled by
    going out once. For an alphabet this puts the symbols in ascending order and drops what is repeated. -/
theorem documents_round_trip :
    RoundTrips Direction.toDocument Direction.ofDocument? (fun _ => True) ∧
    RoundTrips place place? (· < Text.wordBound) ∧
    RoundTrips Alphabet.toDocument Alphabet.ofDocument? (fun _ => True) ∧
    RoundTrips Transition.toDocument Transition.ofDocument? Transition.InRange ∧
    RoundTrips State.toDocument State.ofDocument? State.InRange ∧
    RoundTrips Rejection.toDocument Rejection.ofDocument? (fun _ => True) ∧
    ∀ document alphabet, Alphabet.ofDocument? document = some alphabet →
      ∃ cs row, Components ["symbols"] document [symbols cs] ∧
        alphabet.toDocument = record [("symbols", symbols row)] ∧ row.Pairwise (· < ·) ∧
        ∀ c, c ∈ row ↔ c ∈ cs :=
  ⟨roundTrips_direction, roundTrips_place, roundTrips_alphabet, roundTrips_transition,
    roundTrips_state, roundTrips_rejection, fun _ _ => exists_ascending_row⟩

/-- An alphabet with a note beside it and its symbols in disorder, and a state with one rule. -/
theorem documents_round_trip_of_noted :
    Alphabet.ofDocument? (record [("note", null), ("symbols", symbols ['b', 'a', 'b'])]) =
      some (.ofList ['a', 'b']) ∧
    Alphabet.ofDocument? (Alphabet.ofList ['a', 'b']).toDocument = some (.ofList ['a', 'b']) ∧
    ∃ state : State, state.transitions.length = 1 ∧ State.ofDocument? state.toDocument = some state := by
  obtain ⟨-, -, alphabet, -, state, -, -⟩ := documents_round_trip
  have read : Alphabet.ofDocument? (record [("note", null), ("symbols", symbols ['b', 'a', 'b'])]) =
      some (.ofList ['a', 'b']) :=
    Alphabet.ofDocument?_eq_some_iff.2 ⟨['b', 'a', 'b'], .record rfl, by decide⟩
  have looping : State.InRange ⟨"loop", true, false, [⟨1, 0, 0, ['a'], ['a'], [.right]⟩]⟩ := by
    intro transition mem
    rw [List.mem_singleton.1 mem]
    exact ⟨by decide, by decide, by decide⟩
  exact ⟨read, (alphabet.settles _ _ read).2.1, _, rfl, state.reads_back _ looping⟩

end Document

end Multitape
