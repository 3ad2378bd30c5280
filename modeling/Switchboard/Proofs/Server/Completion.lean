import Switchboard.Proofs.Server.Failure
import Switchboard.Proofs.Server.Reuse

/-!
The fields that tell where a final response ends, and whether the connection is kept. Completing an answer removes
every coding, but it sets length and connection as `Fields.set` does: the first value under the name is replaced, and
the others are kept. So what a complete answer says under these names is the truth first, and then what the service
has left there but for its first value (`getAll_contentLength_complete`, `getAll_connection_complete`). The final
response of a cycle is consistent exactly when the service left one field at most of either name, and always when no
service was called (`final_consistent_iff`).
-/

namespace Switchboard.Server

open Http
open Exchange
open Readiness (Mask)

/-- The one length of a response is that of its body, no coding is declared, and one field says whether the connection
is kept. -/
structure IsConsistent (keepAlive : Bool) (r : Response) : Prop where
  coding : r.fields.getAll "Transfer-Encoding" = []
  length : r.fields.getAll "Content-Length" = [Text.decimal r.body.length]
  connection : r.fields.getAll "Connection" = [if keepAlive then "keep-alive" else "close"]

/-! ## Completing -/

section Complete

variable {site : Site} {keepAlive : Bool}

theorem getAll_contentLength_completeFields (status : Status) (length : Nat) (h : Fields) :
    (completeFields site keepAlive status length h).getAll "Content-Length" =
      Text.decimal length :: (h.getAll "Content-Length").tail := by
  have hcoding : Text.foldCase "Transfer-Encoding" ≠ Text.foldCase "Content-Length" := by decide
  have hallow : Text.foldCase "Allow" ≠ Text.foldCase "Content-Length" := by decide
  have htype : Text.foldCase "Content-Type" ≠ Text.foldCase "Content-Length" := by decide
  have hkeep : Text.foldCase "Connection" ≠ Text.foldCase "Content-Length" := by decide
  have hdate : Text.foldCase "Date" ≠ Text.foldCase "Content-Length" := by decide
  have hserver : Text.foldCase "Server" ≠ Text.foldCase "Content-Length" := by decide
  unfold completeFields
  simp only
  rw [Fields.getAll_set_self, Fields.getAll_remove hcoding]
  split
  · rw [Fields.getAll_set hallow, getAll_withMediaType htype, Fields.getAll_set hkeep,
      Fields.getAll_set hdate, Fields.getAll_set hserver]
  · rw [getAll_withMediaType htype, Fields.getAll_set hkeep, Fields.getAll_set hdate,
      Fields.getAll_set hserver]

theorem getAll_connection_completeFields (status : Status) (length : Nat) (h : Fields) :
    (completeFields site keepAlive status length h).getAll "Connection" =
      (if keepAlive then "keep-alive" else "close") :: (h.getAll "Connection").tail := by
  have hlength : Text.foldCase "Content-Length" ≠ Text.foldCase "Connection" := by decide
  have hcoding : Text.foldCase "Transfer-Encoding" ≠ Text.foldCase "Connection" := by decide
  have hallow : Text.foldCase "Allow" ≠ Text.foldCase "Connection" := by decide
  have htype : Text.foldCase "Content-Type" ≠ Text.foldCase "Connection" := by decide
  have hdate : Text.foldCase "Date" ≠ Text.foldCase "Connection" := by decide
  have hserver : Text.foldCase "Server" ≠ Text.foldCase "Connection" := by decide
  unfold completeFields
  simp only
  rw [Fields.getAll_set hlength, Fields.getAll_remove hcoding]
  split
  · rw [Fields.getAll_set hallow, getAll_withMediaType htype, Fields.getAll_set_self,
      Fields.getAll_set hdate, Fields.getAll_set hserver]
  · rw [getAll_withMediaType htype, Fields.getAll_set_self, Fields.getAll_set hdate,
      Fields.getAll_set hserver]

/-- The page of an error changes the media type only. -/
theorem getAll_paged {name : String} (hname : Text.foldCase "Content-Type" ≠ Text.foldCase name) (a : Answer) :
    a.paged.fields.getAll name = a.slot.response.fields.getAll name := by
  rcases paged_cases a with hp | ⟨-, hp⟩ <;> rw [hp]
  exact Fields.getAll_set hname _ _

/-- The lengths that a complete answer declares: that of its body, and those that the answer had but for the first. -/
theorem getAll_contentLength_complete (site : Site) (keepAlive : Bool) (a : Answer) :
    (a.complete site keepAlive).response.fields.getAll "Content-Length" =
      Text.decimal (a.complete site keepAlive).response.body.length ::
        (a.slot.response.fields.getAll "Content-Length").tail := by
  rw [← getAll_paged (by decide) a]
  exact getAll_contentLength_completeFields _ _ _

theorem getAll_connection_complete (site : Site) (keepAlive : Bool) (a : Answer) :
    (a.complete site keepAlive).response.fields.getAll "Connection" =
      (if keepAlive then "keep-alive" else "close") ::
        (a.slot.response.fields.getAll "Connection").tail := by
  rw [← getAll_paged (by decide) a]
  exact getAll_connection_completeFields _ _ _

theorem tail_eq_nil_iff {α : Type} (l : List α) : l.tail = [] ↔ l.length ≤ 1 := by
  rw [← List.length_eq_zero_iff, List.length_tail]
  omega

/-- A complete answer is consistent exactly when it had one field at most of either name. -/
theorem isConsistent_complete_iff (a : Answer) :
    IsConsistent keepAlive (a.complete site keepAlive).response ↔
      (a.slot.response.fields.getAll "Content-Length").length ≤ 1 ∧
        (a.slot.response.fields.getAll "Connection").length ≤ 1 := by
  have hlength := getAll_contentLength_complete site keepAlive a
  have hconnection := getAll_connection_complete site keepAlive a
  rw [← tail_eq_nil_iff, ← tail_eq_nil_iff]
  constructor
  · intro h
    rw [h.length] at hlength
    rw [h.connection] at hconnection
    exact ⟨(List.cons.inj hlength).2.symm, (List.cons.inj hconnection).2.symm⟩
  · rintro ⟨hl, hc⟩
    rw [hl] at hlength
    rw [hc] at hconnection
    exact ⟨(isFramed_complete site keepAlive a).coding, hlength, hconnection⟩

end Complete

/-! ## What an answer has before it is completed -/

section Answers

variable {site : Site} {name : String}

/-- What came of serving a path is answered with the fields that there are; a media type may be added. -/
theorem fields_outcomeAnswer (site : Site) (s : Slot) (o : Route.Outcome) :
    (outcomeAnswer site s o).slot.response.fields = s.response.fields ∨
      ∃ type, (outcomeAnswer site s o).slot.response.fields = withMediaType type s.response.fields := by
  have hdocument : (documentAnswer site s).slot.response.fields = s.response.fields ∨
      ∃ type, (documentAnswer site s).slot.response.fields = withMediaType type s.response.fields := by
    unfold documentAnswer
    rcases site.documents.read s.request.path with ⟨f | type, content⟩
    · exact Or.inl rfl
    · exact Or.inr ⟨type, rfl⟩
  cases o with
  | ok =>
    left
    show (serviceAnswer s).slot.response.fields = _
    rw [response_serviceAnswer]
    split <;> rfl
  | notFound =>
    show (unroutedAnswer site s).slot.response.fields = _ ∨ ∃ type, (unroutedAnswer site s).slot.response.fields = _
    rcases unroutedAnswer_cases site s with ⟨-, stage, h⟩ | ⟨-, h⟩
    · rw [h, slot_after]
      exact hdocument
    · rw [h]
      exact Or.inl rfl
  | _ => exact Or.inl rfl

theorem getAll_outcomeAnswer (hname : Text.foldCase "Content-Type" ≠ Text.foldCase name) (s : Slot)
    (o : Route.Outcome) :
    (outcomeAnswer site s o).slot.response.fields.getAll name = s.response.fields.getAll name := by
  rcases fields_outcomeAnswer site s o with h | ⟨type, h⟩ <;> rw [h]
  exact getAll_withMediaType hname type _

/-- Without a service the answer has the fields of the slot, with one those that it has left; a media type may be
added. -/
theorem getAll_answer (site : Site) (s : Slot) :
    (calls (answer site s).marks = [] ∧
      ∀ name, Text.foldCase "Content-Type" ≠ Text.foldCase name →
        (answer site s).slot.response.fields.getAll name = s.response.fields.getAll name) ∨
    ∃ f, site.registry.resolve s.request.path = .ok f ∧
      calls (answer site s).marks = [mapResponse (·.setStatus .ok) s] ∧
      ∀ name, Text.foldCase "Content-Type" ≠ Text.foldCase name →
        (answer site s).slot.response.fields.getAll name =
          (f site.registry.table (mapResponse (·.setStatus .ok) s)).1.response.fields.getAll name := by
  by_cases hdispatched : s.request.method.isDispatchable = true
  · rcases hf : site.registry.resolve s.request.path with o | f
    · rw [answer_of_unresolved hdispatched hf]
      exact Or.inl ⟨calls_outcomeAnswer site _ o, fun name hname => getAll_outcomeAnswer hname _ o⟩
    · rw [answer_of_called hdispatched hf rfl]
      refine Or.inr ⟨f, rfl, ?_, fun name hname => getAll_outcomeAnswer hname _ _⟩
      show mapResponse (·.setStatus .ok) s :: calls (outcomeAnswer site _ _).marks = _
      rw [calls_outcomeAnswer]
  · rw [answer_of_refused site hdispatched]
    exact Or.inl ⟨rfl, fun _ _ => rfl⟩

end Answers

/-! ## The final response of a cycle -/

section Final

variable {σ : Type} [Transport σ]

variable {w : Worker} {slot : Slot} {conn : Connection (Recorded (Taped σ))} {mask : Mask} {a : Answer}
  {keepAlive : Bool}

/-- The answer that is due has no fields but those that a service has left, its media type aside. -/
theorem getAll_due (hdue : w.due slot conn mask = some (a, keepAlive)) :
    (calls a.marks = [] ∧
      ∀ name, Text.foldCase "Content-Type" ≠ Text.foldCase name → a.slot.response.fields.getAll name = []) ∨
    ∃ f shown, w.site.registry.resolve shown.request.path = .ok f ∧ calls a.marks = [shown] ∧
      ∀ name, Text.foldCase "Content-Type" ≠ Text.foldCase name →
        a.slot.response.fields.getAll name =
          (f w.site.registry.table shown).1.response.fields.getAll name := by
  have hcleared : (w.intake slot conn mask).2.slot.response = .cleared :=
    (receives_intake w slot conn mask).response
  unfold Worker.due at hdue
  rcases hi : w.intake slot conn mask with ⟨_ | _ | f | k, x⟩ <;> rw [hi] at hdue hcleared
  · exact absurd hdue (by simp)
  · exact absurd hdue (by simp)
  · simp only at hdue hcleared
    split at hdue
    · exact absurd hdue (by simp)
    · obtain ⟨rfl, rfl⟩ := Prod.mk.inj (Option.some.inj hdue)
      refine Or.inl ⟨rfl, fun name _ => ?_⟩
      show x.slot.response.fields.getAll name = []
      rw [hcleared]
      rfl
  · obtain ⟨rfl, rfl⟩ := Prod.mk.inj (Option.some.inj hdue)
    simp only at hcleared
    rcases getAll_answer w.site x.slot with ⟨hcalls, hfields⟩ | ⟨f, hf, hcalls, hfields⟩
    · refine Or.inl ⟨hcalls, fun name hname => ?_⟩
      rw [hfields name hname, hcleared]
      rfl
    · exact Or.inr ⟨f, mapResponse (·.setStatus .ok) x.slot, hf, hcalls, hfields⟩

/-- The final response of a cycle: a cycle that is to write one declares no coding in it, the length of the body
first, and first whether the connection is kept, followed by what else the fields had under these names. So it is
consistent exactly when they had one field at most under either. They had what the service left that was called, and
where none was called the response is consistent. -/
theorem final_consistent_iff (hdue : w.due slot conn mask = some (a, keepAlive)) :
    let final := (a.complete w.site keepAlive).response
    let left := a.slot.response.fields
    (∃ got goAhead, Obeys w slot conn mask got goAhead (responseBytes (a.complete w.site keepAlive))) ∧
      final.fields.getAll "Transfer-Encoding" = [] ∧
      final.fields.getAll "Content-Length" =
        Text.decimal final.body.length :: (left.getAll "Content-Length").tail ∧
      final.fields.getAll "Connection" =
        (if keepAlive then "keep-alive" else "close") :: (left.getAll "Connection").tail ∧
      (IsConsistent keepAlive final ↔
        (left.getAll "Content-Length").length ≤ 1 ∧ (left.getAll "Connection").length ≤ 1) ∧
      (calls a.marks = [] → IsConsistent keepAlive final) ∧
      ∀ shown ∈ calls a.marks, ∃ f, w.site.registry.resolve shown.request.path = .ok f ∧
        ∀ name, Text.foldCase "Content-Type" ≠ Text.foldCase name →
          left.getAll name = (f w.site.registry.table shown).1.response.fields.getAll name := by
  intro final left
  have hleft := getAll_due hdue
  refine ⟨?_, (isFramed_complete w.site keepAlive a).coding, getAll_contentLength_complete w.site keepAlive a,
    getAll_connection_complete w.site keepAlive a, isConsistent_complete_iff a, fun hnone => ?_,
    fun shown hshown => ?_⟩
  · have hobeys := obeys_due w slot conn mask
    rwa [hdue] at hobeys
  · rcases hleft with ⟨-, hempty⟩ | ⟨f, shown, -, hcalls, -⟩
    · refine (isConsistent_complete_iff a).2 ?_
      rw [hempty "Content-Length" (by decide), hempty "Connection" (by decide)]
      exact ⟨Nat.zero_le _, Nat.zero_le _⟩
    · rw [hnone] at hcalls
      exact absurd hcalls (by simp)
  · rcases hleft with ⟨hcalls, -⟩ | ⟨f, shown', hf, hcalls, hfields⟩
    · rw [hcalls] at hshown
      exact absurd hshown List.not_mem_nil
    · rw [hcalls] at hshown
      obtain rfl := List.mem_singleton.1 hshown
      exact ⟨f, hf, hfields⟩

end Final

/-- A service that inserts two lengths. -/
def twoLengthsService : Route.Canned where
  edits := [.insert "Content-Length" "1", .insert "Content-Length" "2"]
  body := some (Text.utf8 "hello")

/-- A worker with that service. -/
def twoLengthsWorker : Worker := echoWorker.withLibraries (soleService twoLengthsService)

/-- The answer that is due on a connection on which the service is asked for. -/
def twoLengthsAnswer : Answer := answer twoLengthsWorker.site noContentLink.slot

/-- The second length that the service inserts is still there when its answer is complete. -/
theorem second_length_written :
    (∃ got goAhead, Obeys twoLengthsWorker (.new {}) noContentConnection .read got goAhead
      (responseBytes (twoLengthsAnswer.complete twoLengthsWorker.site true))) ∧
    (twoLengthsAnswer.complete twoLengthsWorker.site true).response.fields.getAll "Content-Length" = ["5", "2"] ∧
    ¬ IsConsistent true (twoLengthsAnswer.complete twoLengthsWorker.site true).response := by
  have hread : twoLengthsWorker.intake (.new {}) noContentConnection .read = (.read true, noContentLink) :=
    Prod.ext (by decide +kernel) rfl
  have hdue : twoLengthsWorker.due (.new {}) noContentConnection .read = some (twoLengthsAnswer, true) := by
    unfold Worker.due
    rw [hread]
    rfl
  obtain ⟨hobeys, -, hlengths, -, hiff, -, -⟩ := final_consistent_iff hdue
  have hleft : twoLengthsAnswer.slot.response.fields.getAll "Content-Length" = ["1", "2"] := by decide +kernel
  have hbody : (twoLengthsAnswer.complete twoLengthsWorker.site true).response.body.length = 5 := by decide +kernel
  refine ⟨hobeys, ?_, fun h => ?_⟩
  · rw [hlengths, hleft, hbody]
    decide +kernel
  · have hone := (hiff.1 h).1
    rw [hleft] at hone
    exact absurd hone (by decide)

end Switchboard.Server
