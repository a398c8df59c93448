import Ykp.System.ProvisionApp
import Ykp.System.ServiceLink

/-! What the app reads of the device's answers. -/

namespace Ykp.System

open Firmware

/-- The status by which the app tells an answer apart. -/
def bleStatusOf : Notification → Option BleStatus
  | .credsOk _ _ _ => some .credsOk
  | .sslDone _ => some .sslDone
  | .udpReady _ => some .udpReady
  | .udpOk => some .udpOk
  | .report _ _ _ _ _ => some .report
  | .scanResults _ => some .scanResults
  | .commitOk _ => some .commitOk
  | _ => none

variable {answer : Notification}

/-- The members of an answer have its status. -/
theorem fields_status (other : ¬ answer.IsScan) :
    Members.status answer.fields = bleStatusOf answer := by
  cases answer with
  | scanResults formatted => exact absurd trivial other
  | sslProgress ca => cases ca <;> rfl
  | setCert chunk ok seq => cases ok <;> rfl
  | _ => rfl

/-- A text that starts and ends with a brace is not trimmed. -/
theorem kotlinTrim_braces (text : JsString) :
    kotlinTrim (0x7B :: text ++ [0x7D]) = 0x7B :: text ++ [0x7D] := by
  have front : isKotlinSpace 0x7B = false := by decide
  have back : isKotlinSpace 0x7D = false := by decide
  rw [kotlinTrim, List.cons_append, List.dropWhile_cons_of_neg (by simp [front]), List.reverse_cons,
    List.reverse_append, List.reverse_singleton, List.singleton_append, List.cons_append,
    List.dropWhile_cons_of_neg (by simp [back])]
  simp

/-- The text of an object ends with a brace. -/
theorem renderMembers_closed (members : Members) :
    ∃ inner, Json.renderMembers members = inner ++ [Json.closeBrace] := by
  induction members with
  | nil => exact ⟨[], by rw [Json.renderMembers]; rfl⟩
  | cons first rest ih =>
    cases rest with
    | nil => exact ⟨Json.renderMember first, by rw [Json.renderMembers]⟩
    | cons second others =>
      obtain ⟨inner, closed⟩ := ih
      refine ⟨Json.renderMember first ++ Json.comma :: inner, ?_⟩
      rw [Json.renderMembers, closed]
      · simp
      · nofun

/-- The line of a rendered object is its text as it is decoded. -/
theorem lineText_object (members : Members) :
    lineText (Json.render (.object members)) = utf8Decode (Json.render (.object members)) := by
  obtain ⟨inner, closed⟩ := renderMembers_closed members
  have front : utf8Decode (Json.openBrace :: (inner ++ [Json.closeBrace])) =
      0x7B :: utf8DecodeFrom .idle (inner ++ [Json.closeBrace]) :=
    utf8DecodeFrom_ascii idle_reachable [] (by decide) _
  have back : utf8DecodeFrom .idle (inner ++ [Json.closeBrace]) =
      utf8DecodeFrom .idle inner ++ [0x7D] :=
    utf8DecodeFrom_ascii idle_reachable inner (by decide) []
  rw [lineText, Json.render, closed, front, back, ← List.cons_append, kotlinTrim_braces]

/-- The app reads an answer that is no list of networks with its members. -/
theorem answer_read {platform : AppPlatform} (reads : platform.ReadsObjects)
    (other : ¬ answer.IsScan) (nonce : answer.NonceWritten) :
    platform.jsonObject (lineText answer.text) = some answer.fields := by
  obtain ⟨parsed, visible, -⟩ := text_written other nonce
  rw [text_eq other] at parsed visible ⊢
  rw [lineText_object]
  exact reads _ _ (fun byte member => (visible byte member).2) parsed

end Ykp.System
