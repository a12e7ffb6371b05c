import Goodix.Library.Traces

/-! # Monitors

A monitor reads a log and says of each entry whether it may come now.  What may come is
stated once, beside what the monitor remembers; a log is lawful if its monitor never
objects.
-/

namespace Monitors

open Traces

structure Monitor (μ ω : Type*) where
  start : μ
  note : μ → ω → μ
  Allows : μ → ω → Prop

namespace Monitor

variable {μ ω : Type*} (monitor : Monitor μ ω)

/-- What the monitor remembers behind a log. -/
def after (log : List ω) : μ := log.foldl monitor.note monitor.start

def Lawful (log : List ω) : Prop :=
  Justified (fun before entry => monitor.Allows (monitor.after before) entry) log

/-- The monitor allows some entries in a row. -/
def Admits : μ → List ω → Prop
  | _, [] => True
  | memory, entry :: later => monitor.Allows memory entry ∧ Admits (monitor.note memory entry) later

/-- An entry that is always allowed and that the monitor forgets. -/
def Ignores (entry : ω) : Prop :=
  ∀ memory, monitor.Allows memory entry ∧ monitor.note memory entry = memory

variable {monitor}

theorem after_append (log more : List ω) :
    monitor.after (log ++ more) = more.foldl monitor.note (monitor.after log) :=
  List.foldl_append ..

theorem Lawful.append {log : List ω} (lawful : monitor.Lawful log) (more : List ω)
    (admits : monitor.Admits (monitor.after log) more) : monitor.Lawful (log ++ more) := by
  induction more generalizing log with
  | nil => rwa [List.append_nil]
  | cons entry later ih =>
    have first : monitor.Lawful (log ++ [entry]) := justified_concat.mpr ⟨lawful, admits.1⟩
    have rest := ih first (by rw [after_append]; exact admits.2)
    simpa using rest

theorem admits_append {memory : μ} {first second : List ω} :
    monitor.Admits memory (first ++ second) ↔
      monitor.Admits memory first ∧ monitor.Admits (first.foldl monitor.note memory) second := by
  induction first generalizing memory with
  | nil => simp [Admits]
  | cons entry first ih => simp [Admits, ih, and_assoc]

theorem admits_of_ignores {memory : μ} {entries : List ω}
    (ignores : ∀ entry ∈ entries, monitor.Ignores entry) :
    monitor.Admits memory entries ∧ entries.foldl monitor.note memory = memory := by
  induction entries with
  | nil => exact ⟨trivial, rfl⟩
  | cons entry entries ih =>
    have first := ignores entry (List.mem_cons_self ..) memory
    have rest := ih fun entry inside => ignores entry (List.mem_cons_of_mem _ inside)
    refine ⟨⟨first.1, ?_⟩, ?_⟩
    · rw [first.2]
      exact rest.1
    · rw [List.foldl_cons, first.2]
      exact rest.2

end Monitor

end Monitors
