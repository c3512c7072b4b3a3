/-
Module: Multitape.Configuration
Purpose: The transition relation of a deterministic machine with several tapes, as textbooks give it.
Main exports: Configuration, Configuration.initial, Configuration.Fires, Configuration.Next,
  Configuration.After, Configuration.Accepts, Configuration.Rejects, Machine.configuration
-/
import Multitape.InfiniteTape
import Multitape.Machine

namespace Multitape

/-- A state and the tapes with their heads. Tapes have no ends, so a configuration knows nothing of what is
    stored. -/
structure Configuration where
  state : Nat
  tapes : List InfiniteTape

namespace Configuration

/-- The input stands on the first tape from the head on; everything else is blank. -/
def initial (program : Program) (input : List Char) : Configuration where
  state := program.initial
  tapes := (List.range program.tapeCount).map fun tape =>
    InfiniteTape.ofWord program.blank (if tape = 0 then input else [])

/-- The symbols under the heads. -/
def scanned (configuration : Configuration) : List Char :=
  configuration.tapes.map InfiniteTape.read

/-- A rule matches if each of its read entries is the wildcard or the scanned symbol. -/
def Matches (transition : Transition) (symbols : List Char) : Prop :=
  transition.read.length = symbols.length ∧
    ∀ entry ∈ transition.read.zip symbols, entry.1 = wildcard ∨ entry.1 = entry.2

/-- The rule that a state takes: it matches, and no rule declared before it does. -/
def Fires (state : State) (symbols : List Char) (transition : Transition) : Prop :=
  ∃ before after, state.transitions = before ++ transition :: after ∧
    Matches transition symbols ∧ ∀ earlier ∈ before, ¬ Matches earlier symbols

/-- Each tape is written and its head moved. -/
def act (transition : Transition) (tapes : List InfiniteTape) : List InfiniteTape :=
  (tapes.zip (transition.write.zip transition.directions)).map fun entry =>
    (entry.1.write entry.2.1).shift entry.2.2

/-- One step: a state that does not accept takes a rule. -/
inductive Next (program : Program) : Configuration → Configuration → Prop where
  | take {configuration : Configuration} {transition : Transition}
      (running : (program.stateAt configuration.state).accepting = false)
      (fires : Fires (program.stateAt configuration.state) configuration.scanned transition) :
      Next program configuration ⟨transition.target, act transition configuration.tapes⟩

/-- What a number of steps lead to. -/
inductive After (program : Program) : Nat → Configuration → Configuration → Prop where
  | zero (configuration : Configuration) : After program 0 configuration configuration
  | succ {count : Nat} {first middle last : Configuration} (steps : After program count first middle)
      (next : Next program middle last) : After program (count + 1) first last

/-- The machine comes to an accepting state. -/
def Accepts (program : Program) (input : List Char) : Prop :=
  ∃ count last, After program count (initial program input) last ∧
    (program.stateAt last.state).accepting = true

/-- The machine comes to a state that does not accept and has no rule for what is scanned. -/
def Rejects (program : Program) (input : List Char) : Prop :=
  ∃ count last, After program count (initial program input) last ∧
    (program.stateAt last.state).accepting = false ∧
    ∀ transition, ¬ Fires (program.stateAt last.state) last.scanned transition

end Configuration

/-- The configuration that a machine stands in: its state and the endless tapes that its tapes stand for. -/
def Machine.configuration (machine : Machine) : Configuration :=
  ⟨machine.current, machine.tapes.map Tape.view⟩

end Multitape
