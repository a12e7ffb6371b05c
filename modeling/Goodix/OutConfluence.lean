import Goodix.LivePreflight.Confluence
import Goodix.Pairing.Confluence
import Goodix.SecureSession.Confluence

/-! # OUT completions and inbound frames

Three components send commands and wait for frames while the OUT of the command is
still under way.  In each of them the completion may be handled before the frames that
answer the command, between them or after them.
-/

namespace Goodix

open Machines Reorderings

/-- **OUT-completion confluence.**  Runs that differ only in when the successful completion of each
command is handled among the frames of that command send the same commands, end in the same phase
and hold the same evidence and readbacks. -/
theorem out_completion_confluence (crypto : Primitives) :
    (∀ events events',
      Reordered LivePreflight.step LivePreflight.Late LivePreflight.new events events' →
        Agree LivePreflight.Alike LivePreflight.Accepted.command?
          (run LivePreflight.step LivePreflight.new events)
          (run LivePreflight.step LivePreflight.new events')) ∧
      (∀ system events events',
        Reordered (Pairing.step crypto) Pairing.Late system events events' →
          Agree Pairing.Alike Pairing.Observed.request?
            (run (Pairing.step crypto) system events)
            (run (Pairing.step crypto) system events')) ∧
      ∀ generation material inputs inputs',
        Reordered (SecureSession.step crypto) SecureSession.Late
            (SecureSession.initial generation material) inputs inputs' →
          Agree SecureSession.Alike SecureSession.Observed.submitted?
            (run (SecureSession.step crypto) (SecureSession.initial generation material) inputs)
            (run (SecureSession.step crypto) (SecureSession.initial generation material)
              inputs') :=
  ⟨fun _ _ reordered => LivePreflight.preflight_confluent reordered,
    fun _ _ _ reordered => Pairing.pairing_confluent crypto reordered,
    fun _ _ _ _ reordered => SecureSession.session_confluent crypto reordered⟩

end Goodix
