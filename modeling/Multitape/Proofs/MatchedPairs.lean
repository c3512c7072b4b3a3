/-
Module: Multitape.Proofs.MatchedPairs
Purpose: The bundled machine `anbn` accepts some `a`s followed by as many `b`s, and nothing else. One
  round of it marks the first `a` and crosses off the first `b`. What is left of the word gets shorter
  by the mark, and it is balanced after the round exactly if it was before.
Main exports: Catalog.Balanced, Catalog.balanced_round_iff, Catalog.round, Catalog.answers_rounds,
  Catalog.anbn_decides_pairs
-/
import Mathlib.Tactic.Ring
import Multitape.Proofs.BundledTables
import Multitape.Proofs.Decision

namespace Multitape.Catalog

/-! ### What is left of a word -/

/-- What is left when marked `a`s are not counted: as many `a`s as `b`s, and crossed off `b`s between
    them. -/
def Balanced (word : List Char) : Prop :=
  ∃ pairs crossed,
    word = List.replicate pairs 'a' ++ List.replicate crossed 'Y' ++ List.replicate pairs 'b'

/-- What rounds leave of a word: no `b` has been crossed off behind one that has not. -/
structure Crossed (word : List Char) : Prop where
  symbols : ∀ symbol ∈ word, symbol = 'a' ∨ symbol = 'b' ∨ symbol = 'Y'
  in_order : word.Pairwise fun earlier later => earlier = 'b' → later ≠ 'Y'

/-- The first place of a symbol parts a word in one way only. -/
theorem append_cons_inj_first {symbol : Char} {first second rest other : List Char}
    (notFirst : symbol ∉ first) (notSecond : symbol ∉ second)
    (same : first ++ symbol :: rest = second ++ symbol :: other) : first = second ∧ rest = other := by
  have before : ∀ {word after : List Char}, symbol ∉ word →
      (word ++ symbol :: after).takeWhile (· ≠ symbol) = word := by
    intro word after notMem
    have passed : ∀ x ∈ word, decide (x ≠ symbol) = true := fun x mem =>
      decide_eq_true fun equal => notMem (equal ▸ mem)
    rw [List.takeWhile_append_of_pos passed]
    simp
  have ofFirst : (first ++ symbol :: rest).takeWhile (· ≠ symbol) = first := before notFirst
  have ofSecond : (second ++ symbol :: other).takeWhile (· ≠ symbol) = second := before notSecond
  obtain rfl : first = second := by rw [← ofFirst, same, ofSecond]
  simpa using same

/-- So does the last place. -/
theorem append_cons_inj_last {symbol : Char} {first second rest other : List Char}
    (notRest : symbol ∉ rest) (notOther : symbol ∉ other)
    (same : first ++ symbol :: rest = second ++ symbol :: other) : first = second ∧ rest = other := by
  have reversed : rest.reverse ++ symbol :: first.reverse =
      other.reverse ++ symbol :: second.reverse := by
    simpa using congrArg List.reverse same
  obtain ⟨rests, firsts⟩ := append_cons_inj_first (by simpa using notRest) (by simpa using notOther)
    reversed
  exact ⟨List.reverse_injective firsts, List.reverse_injective rests⟩

theorem balanced_nil : Balanced [] := ⟨0, 0, rfl⟩

/-- A word that begins with a `b` lacks an `a`. -/
theorem not_balanced_b (word : List Char) : ¬ Balanced ('b' :: word) := by
  rintro ⟨pairs, crossed, same⟩
  cases pairs <;> cases crossed <;> simp [List.replicate_succ] at same

/-- Without an `a`, there must be no `b` either. -/
theorem balanced_Y_iff {word : List Char} :
    Balanced ('Y' :: word) ↔ ∀ symbol ∈ word, symbol = 'Y' := by
  constructor
  · rintro ⟨pairs, crossed, same⟩
    cases pairs with
    | zero =>
        have all : ∀ symbol ∈ 'Y' :: word, symbol = 'Y' := by
          rw [same]
          simp
        exact fun symbol mem => all symbol (List.mem_cons_of_mem 'Y' mem)
    | succ pairs => simp [List.replicate_succ] at same
  · intro all
    refine ⟨0, word.length + 1, ?_⟩
    simpa [List.replicate_succ] using List.eq_replicate_of_mem all

/-- Without a `b`, there must be no `a` either. -/
theorem not_balanced_a {word : List Char} (noB : 'b' ∉ word) : ¬ Balanced ('a' :: word) := by
  rintro ⟨pairs, crossed, same⟩
  cases pairs with
  | zero => cases crossed <;> simp [List.replicate_succ] at same
  | succ pairs =>
      have mem : 'b' ∈ 'a' :: word := by
        rw [same]
        simp
      simp [noB] at mem

/-- A round takes an `a` away and crosses off the first `b`, which leaves a balanced word balanced and
    any other unbalanced. -/
theorem balanced_round_iff {skipped ahead : List Char} (noB : 'b' ∉ skipped) (noY : 'Y' ∉ ahead) :
    Balanced ('a' :: (skipped ++ 'b' :: ahead)) ↔ Balanced (skipped ++ 'Y' :: ahead) := by
  constructor
  · rintro ⟨pairs, crossed, same⟩
    cases pairs with
    | zero => cases crossed <;> simp [List.replicate_succ] at same
    | succ pairs =>
        have parted : skipped ++ 'b' :: ahead =
            (List.replicate pairs 'a' ++ List.replicate crossed 'Y') ++
              'b' :: List.replicate pairs 'b' := by
          simpa [List.replicate_succ] using same
        obtain ⟨rfl, rfl⟩ := append_cons_inj_first noB (by simp) parted
        exact ⟨pairs, crossed + 1, by simp [List.replicate_succ']⟩
  · rintro ⟨pairs, crossed, same⟩
    cases crossed with
    | zero =>
        have mem : 'Y' ∈ skipped ++ 'Y' :: ahead := by simp
        rw [same] at mem
        simp at mem
    | succ crossed =>
        have parted : skipped ++ 'Y' :: ahead =
            (List.replicate pairs 'a' ++ List.replicate crossed 'Y') ++
              'Y' :: List.replicate pairs 'b' := by
          simpa [List.replicate_succ'] using same
        obtain ⟨rfl, rfl⟩ := append_cons_inj_last noY (by simp) parted
        exact ⟨pairs + 1, crossed, by simp [List.replicate_succ]⟩

/-- What a round finds: it passes over `a`s and crossed off `b`s only, and none has been crossed off
    behind the `b` that it comes to. -/
theorem Crossed.round {skipped ahead : List Char} (noB : 'b' ∉ skipped)
    (before : Crossed ('a' :: (skipped ++ 'b' :: ahead))) :
    (∀ symbol ∈ skipped, symbol = 'a' ∨ symbol = 'Y') ∧ 'Y' ∉ ahead ∧
      Crossed (skipped ++ 'Y' :: ahead) := by
  obtain ⟨inSkipped, inRest, -⟩ := List.pairwise_append.1 (List.pairwise_cons.1 before.in_order).2
  obtain ⟨behindB, inAhead⟩ := List.pairwise_cons.1 inRest
  refine ⟨fun symbol mem => ?_, fun mem => behindB 'Y' mem rfl rfl, fun symbol mem => ?_, ?_⟩
  · exact (before.symbols symbol (by simp [mem])).imp_right fun other =>
      other.resolve_left fun same => noB (same ▸ mem)
  · rcases List.mem_append.1 mem with mem | mem
    · exact before.symbols symbol (by simp [mem])
    · rcases List.mem_cons.1 mem with rfl | mem
      · simp
      · exact before.symbols symbol (by simp [mem])
  · refine List.pairwise_append.2 ⟨inSkipped, List.pairwise_cons.2 ⟨by simp, inAhead⟩, ?_⟩
    intro earlier mem later _ isB
    exact absurd (isB ▸ mem) noB

/-- Before anything is crossed off, a balanced word is some `a`s and as many `b`s. -/
theorem balanced_iff {word : List Char} (letters : ∀ symbol ∈ word, symbol ∈ ['a', 'b']) :
    Balanced word ↔ ∃ count, word = List.replicate count 'a' ++ List.replicate count 'b' := by
  constructor
  · rintro ⟨pairs, crossed, rfl⟩
    cases crossed with
    | zero => exact ⟨pairs, by simp⟩
    | succ crossed => simpa using letters 'Y' (by simp)
  · rintro ⟨count, rfl⟩
    exact ⟨count, 0, by simp⟩

/-! ### Rounds -/

theorem passes_right {symbol : Char} (skippable : symbol = 'a' ∨ symbol = 'Y') :
    anbnTable.Passes 1 .right symbol := by
  rcases skippable with rfl | rfl
  · exact ⟨rfl, _, _, _, rfl⟩
  · exact ⟨rfl, _, _, _, rfl⟩

theorem passes_left {symbol : Char} (skippable : symbol = 'a' ∨ symbol = 'Y') :
    anbnTable.Passes 2 .left symbol := by
  rcases skippable with rfl | rfl
  · exact ⟨rfl, _, _, _, rfl⟩
  · exact ⟨rfl, _, _, _, rfl⟩

/-- One round: an `a` is marked, the first `b` is crossed off, and the head comes back to the mark. -/
theorem round {skipped : List Char} (skippable : ∀ symbol ∈ skipped, symbol = 'a' ∨ symbol = 'Y')
    (marks ahead : List Char) :
    Passage anbnTable (2 * skipped.length + 3)
      ⟨0, [anbnTable.tape marks ('a' :: (skipped ++ 'b' :: ahead))]⟩
      ⟨0, [anbnTable.tape ('X' :: marks) (skipped ++ 'Y' :: ahead)]⟩ := by
  have mark : Passage anbnTable 1 ⟨0, [anbnTable.tape marks ('a' :: (skipped ++ 'b' :: ahead))]⟩
      ⟨1, [anbnTable.tape ('X' :: marks) (skipped ++ 'b' :: ahead)]⟩ := .right rfl rfl _ _
  have search : Passage anbnTable skipped.length _
      ⟨1, [anbnTable.tape (skipped.reverse ++ 'X' :: marks) ('b' :: ahead)]⟩ :=
    .sweepRight (fun symbol mem => passes_right (skippable symbol mem)) ('X' :: marks) ('b' :: ahead)
  have cross : Passage anbnTable 1
      ⟨1, [anbnTable.tape (skipped.reverse ++ 'X' :: marks) ('b' :: ahead)]⟩
      ⟨2, [(anbnTable.tape (skipped.reverse ++ 'X' :: marks) ('Y' :: ahead)).moveLeft]⟩ :=
    .left rfl rfl _ _
  have back : Passage anbnTable skipped.reverse.length _
      ⟨2, [(anbnTable.tape ('X' :: marks) (skipped.reverse.reverse ++ 'Y' :: ahead)).moveLeft]⟩ :=
    .sweepLeft (fun symbol mem => passes_left (skippable symbol (List.mem_reverse.1 mem)))
      ('X' :: marks) 'Y' ahead
  rw [List.length_reverse, List.reverse_reverse, Tape.moveLeft_tape (by simp)] at back
  have step : Passage anbnTable 1 ⟨2, [anbnTable.tape marks ('X' :: (skipped ++ 'Y' :: ahead))]⟩
      ⟨0, [anbnTable.tape ('X' :: marks) (skipped ++ 'Y' :: ahead)]⟩ := .right rfl rfl _ _
  have whole := mark.trans (search.trans (cross.trans (back.trans step)))
  rwa [show 1 + (skipped.length + (1 + (skipped.length + 1))) = 2 * skipped.length + 3 by omega]
    at whole

/-- After the last `a` has been marked, only crossed off `b`s may follow. -/
theorem answers_crossed {word : List Char}
    (symbols : ∀ symbol ∈ word, symbol = 'a' ∨ symbol = 'b' ∨ symbol = 'Y') (behind : List Char) :
    anbnTable.Answers (word.length + 1) ⟨3, [anbnTable.tape behind word]⟩
      (∀ symbol ∈ word, symbol = 'Y') := by
  induction word generalizing behind with
  | nil =>
      have accept : Passage anbnTable 1 ⟨3, [anbnTable.tape behind ['_']]⟩
          ⟨4, [anbnTable.tape behind ['_']]⟩ := .stay rfl rfl _ _
      exact .of_passage accept (.of_accepting rfl (by simp))
  | cons head tail ih =>
      obtain ⟨rfl | rfl | rfl, others⟩ := List.forall_mem_cons.1 symbols
      · exact .of_stuck rfl rfl (by simp)
      · exact .of_stuck rfl rfl (by simp)
      · have skip : Passage anbnTable 1 ⟨3, [anbnTable.tape behind ('Y' :: tail)]⟩
            ⟨3, [anbnTable.tape ('Y' :: behind) tail]⟩ := .right rfl rfl _ _
        exact (Program.Answers.of_passage skip (ih others ('Y' :: behind))).congr (by simp)

/-- A word without a `b` leaves the machine searching at its end. -/
theorem answers_unmatched {word : List Char}
    (skippable : ∀ symbol ∈ word, symbol = 'a' ∨ symbol = 'Y') (noB : 'b' ∉ word)
    (marks : List Char) :
    anbnTable.Answers (word.length + 1) ⟨0, [anbnTable.tape marks ('a' :: word)]⟩
      (Balanced ('a' :: word)) := by
  have mark : Passage anbnTable 1 ⟨0, [anbnTable.tape marks ('a' :: word)]⟩
      ⟨1, [anbnTable.tape ('X' :: marks) (word ++ [])]⟩ := by
    rw [List.append_nil]
    exact .right rfl rfl _ _
  have search := Passage.sweepRight (fun symbol mem => passes_right (skippable symbol mem))
    ('X' :: marks) []
  have stuck : anbnTable.Answers 0 ⟨1, [anbnTable.tape (word.reverse ++ 'X' :: marks) []]⟩
      (Balanced ('a' :: word)) := .of_stuck rfl rfl (not_balanced_a noB)
  exact (stuck.of_passage (mark.trans search)).mono (by omega)

/-- From the first unmarked symbol on, the machine finds out whether what is left is balanced. -/
theorem answers_rounds {length : Nat} {word : List Char} (sorted : Crossed word)
    (measure : word.length = length) (marks : List Char) :
    anbnTable.Answers (length ^ 2 + 1) ⟨0, [anbnTable.tape marks word]⟩ (Balanced word) := by
  -- On the length of what is left. A round takes its first symbol away, and its rules are fewer than
  -- the squares of the two lengths differ by.
  induction length generalizing word marks with
  | zero =>
      obtain rfl := List.length_eq_zero_iff.1 measure
      have accept : Passage anbnTable 1 ⟨0, [anbnTable.tape marks ['_']]⟩
          ⟨4, [anbnTable.tape marks ['_']]⟩ := .stay rfl rfl _ _
      exact .of_passage accept (.of_accepting rfl balanced_nil)
  | succ length ih =>
      obtain ⟨head, tail, rfl⟩ := List.exists_cons_of_length_eq_add_one measure
      have square : (length + 1) ^ 2 = length ^ 2 + 2 * length + 1 := by ring
      have length_tail : tail.length = length := Nat.succ.inj measure
      obtain ⟨rfl | rfl | rfl, symbols⟩ := List.forall_mem_cons.1 sorted.symbols
      · by_cases mem : 'b' ∈ tail
        · obtain ⟨skipped, ahead, rfl, noB⟩ := List.eq_append_cons_of_mem mem
          obtain ⟨skippable, noY, after⟩ := sorted.round noB
          have shorter : (skipped ++ 'Y' :: ahead).length = length := by simpa using length_tail
          have others := (ih after shorter ('X' :: marks)).of_passage (round skippable marks ahead)
          refine (others.congr (balanced_round_iff noB noY).symm).mono ?_
          have inside : skipped.length + 1 ≤ length := by
            rw [← length_tail, List.length_append, List.length_cons]
            omega
          omega
        · have skippable : ∀ symbol ∈ tail, symbol = 'a' ∨ symbol = 'Y' := fun symbol inTail =>
            (symbols symbol inTail).imp_right fun other =>
              other.resolve_left fun same => mem (same ▸ inTail)
          exact (answers_unmatched skippable mem marks).mono (by omega)
      · exact .of_stuck rfl rfl (not_balanced_b tail)
      · have step : Passage anbnTable 1 ⟨0, [anbnTable.tape marks ('Y' :: tail)]⟩
            ⟨3, [anbnTable.tape ('Y' :: marks) tail]⟩ := .right rfl rfl _ _
        have crossed := (answers_crossed symbols ('Y' :: marks)).of_passage step
        exact (crossed.congr balanced_Y_iff.symm).mono (by omega)

/-- A word of letters, of which nothing has been crossed off. -/
theorem crossed_of_letters {word : List Char} (letters : ∀ symbol ∈ word, symbol ∈ ['a', 'b']) :
    Crossed word where
  symbols := fun symbol mem => by
    have letter := letters symbol mem
    simp only [List.mem_cons, List.not_mem_nil, or_false] at letter
    exact letter.imp_right Or.inl
  in_order := by
    refine List.pairwise_of_forall_mem_list fun earlier _ later mem _ => ?_
    rintro rfl
    simpa using letters 'Y' mem

theorem takes_anbn : anbnTable.Takes ['a', 'b'] where
  tapes_pos := by decide
  running := rfl
  wildcard_not_mem := by simp [anbnTable, wildcard]
  mem_input_iff := fun symbol => Alphabet.mem_ofList
  letters_mem := by simp [anbnTable]

/-- The bundled machine `anbn` decides the words of some `a`s and as many `b`s. It halts on every word,
    and takes at most one rule more than the square of its length. -/
theorem anbn_decides_pairs :
    ∃ program, programNamed "anbn" = .ok program ∧ ∀ word : List Char,
      ∃ run, (Machine.ofProgram program).run (word.length ^ 2 + 2) word = some run ∧
        run.final.stepCount ≤ word.length ^ 2 + 1 ∧
        run.Decides ['a', 'b']
          (fun word => ∃ count, word = List.replicate count 'a' ++ List.replicate count 'b') word := by
  have named : programNamed anbnTable.name = .ok anbnTable :=
    programNamed_name (by simp [programs_eq])
  have answers : ∀ word, (∀ symbol ∈ word, symbol ∈ ['a', 'b']) →
      anbnTable.Answers (word.length ^ 2 + 1) (.initial anbnTable word)
        (∃ count, word = List.replicate count 'a' ++ List.replicate count 'b') := by
    intro word letters
    have found := answers_rounds (crossed_of_letters letters) rfl []
    exact found.congr (balanced_iff letters)
  exact ⟨anbnTable, named, takes_anbn.exists_run answers⟩

end Multitape.Catalog
