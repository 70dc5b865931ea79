import JavaLex.Diagnostics.Event
import JavaLex.Proofs.Text.Boundary

/-! # The bound on messages

Whatever an event was made for, a message within the bound is kept as it is, and of a longer one the
longest beginning that fits, with a mark behind it. Where a character stands across the bound all of
it is left out.
-/
namespace JavaLex.Diagnostics
open Source Text

/-- How an event keeps the message that it was made for. -/
structure Keeps (message kept : String) : Prop where
  /-- There is such a message, so no search ran below zero and no character was cut in two. -/
  boundedMessage?_eq : boundedMessage? message = some kept
  whole : message.utf8ByteSize ≤ maxMessageBytes → kept = message
  cut : maxMessageBytes < message.utf8ByteSize → ∃ first, CutsAt message maxMessageBytes first ∧
    9997 ≤ first.utf8ByteSize ∧ kept = first ++ "... [truncated]"

theorem boundedMessage?_eq_some (message : String) :
    boundedMessage? message = some (boundedMessage message) :=
  (Option.some_get _).symm

theorem boundedMessage?_of_le {message : String} (h : message.utf8ByteSize ≤ maxMessageBytes) :
    boundedMessage? message = some message := by
  rw [boundedMessage?, if_pos h]
  rfl

theorem boundedMessage?_of_cutsAt {message first : String}
    (h : maxMessageBytes < message.utf8ByteSize) (hcut : CutsAt message maxMessageBytes first) :
    boundedMessage? message = some (first ++ "... [truncated]") := by
  rw [boundedMessage?, if_neg (Nat.not_le_of_lt h), hcut.boundary?_eq]
  change (firstBytes? message first.utf8ByteSize).bind _ = _
  rw [hcut.firstBytes?_eq]
  rfl

theorem keeps_boundedMessage (message : String) : Keeps message (boundedMessage message) where
  boundedMessage?_eq := boundedMessage?_eq_some message
  whole h := by
    have hwhole := boundedMessage?_of_le h
    rw [boundedMessage?_eq_some] at hwhole
    exact Option.some.inj hwhole
  cut h := by
    obtain ⟨first, hcut⟩ := exists_cutsAt (Nat.le_of_lt h)
    have hshort := boundedMessage?_of_cutsAt h hcut
    rw [boundedMessage?_eq_some] at hshort
    have hnear : 10000 ≤ first.utf8ByteSize + 3 := hcut.le_add_three
    exact ⟨first, hcut, by omega, Option.some.inj hshort⟩

namespace Event

/-- The events made for a message, with or without a place and details. -/
inductive MadeFor (message : String) : Event → Prop where
  | error (code : Code) : MadeFor message (.error code message)
  | warning (code : Code) : MadeFor message (.warning code message)
  | info : MadeFor message (.info message)
  | success (code : Code) : MadeFor message (.success code message)
  | debug : MadeFor message (.debug message)
  | withSpan {e : Event} (span : Span) (h : MadeFor message e) : MadeFor message (e.withSpan span)
  | withDetail {e : Event} (key value : String) (h : MadeFor message e) :
    MadeFor message (e.withDetail key value)

theorem MadeFor.message_eq {message : String} {e : Event} (h : MadeFor message e) :
    e.message = boundedMessage message := by
  induction h with
  | error | warning | info | success | debug => rfl
  | withSpan span h ih => exact ih
  | withDetail key value h ih => exact ih

/-- Every event keeps its message whole or cuts it where a character ends. -/
theorem keeps_message {message : String} {e : Event} (h : MadeFor message e) :
    Keeps message e.message := by
  rw [h.message_eq]
  exact keeps_boundedMessage message

/-- A message in which a character of four bytes stands across the bound. -/
def straddlingMessage : String :=
  String.ofList (List.replicate 9998 'x') ++ "😀 is not a token"

def straddlingEvent : Event :=
  (error Code.unexpectedCharacter straddlingMessage).withDetail "file" "A.java"

theorem utf8ByteSize_straddlingMessage : straddlingMessage.utf8ByteSize = 10017 := by
  unfold straddlingMessage
  rw [String.utf8ByteSize_append, utf8ByteSize_replicate]
  rfl

theorem keeps_message_straddling :
    MadeFor straddlingMessage straddlingEvent ∧ maxMessageBytes < straddlingMessage.utf8ByteSize ∧
      Keeps straddlingMessage straddlingEvent.message := by
  have hmade : MadeFor straddlingMessage straddlingEvent :=
    .withDetail "file" "A.java" (.error Code.unexpectedCharacter)
  have hlong : maxMessageBytes < straddlingMessage.utf8ByteSize := by
    rw [utf8ByteSize_straddlingMessage]
    decide
  exact ⟨hmade, hlong, keeps_message hmade⟩

end Event
end JavaLex.Diagnostics
