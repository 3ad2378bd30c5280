import Switchboard.Proofs.Http.Head.RoundTrip

/-!
Heads that were accepted, written again. The same fields may reach a reader in many forms: with more or fewer blanks
around a value, and with bytes in it that are no text. What an accepted head leaves behind has one form only, the head
of a request as it is sent. Its fields can be sent, so that nothing in them ends a line or the head, and reading what
is written gives the same line and the same fields in the same order (`acceptedHead_canonical`). The limit on the
section is judged by what is written, which may be longer than what was read: a byte that is no text is written as
three.
-/

namespace Switchboard.Http

open Head

namespace Head

/-- A head that is found in its own bytes has no blank line before its end. -/
theorem blankLine_only_at_end {head u v : Bytes} (h : split? head = some (head, []))
    (hcut : head = u ++ (blankLine ++ v)) : v = [] := by
  by_contra hv
  have hlen : (u ++ blankLine).length < head.length := by
    have hpos := List.length_pos_iff.2 hv
    rw [hcut]
    simp only [List.length_append]
    omega
  have hwhole : split? (u ++ blankLine ++ v) = some (head, []) := by
    rw [List.append_assoc, ← hcut]
    exact h
  have hnone := split?_eq_none_of_lt hwhole hlen
  rw [split?_eq_cut?, Option.map_eq_none_iff] at hnone
  exact not_infix_of_cut? (by decide) hnone (List.suffix_append u blankLine).isInfix

/-- A head whose section is past the limit is refused for it. -/
theorem parse_of_long_section {head start rest : Bytes} {maxHeader : Nat}
    (h : splitLine? head = some (start, rest)) (hlong : maxHeader < rest.length) :
    parse head maxHeader = .error (.headerTooLarge maxHeader) := by
  rw [parse, h]
  exact if_pos hlong

end Head

/-- Accepted heads have one form. Their fields can be sent; and a request with the line and the fields of an
accepted head is written with its only blank line at the end, and is read back with the same line and the same
fields, in the same order, under each limit that the section it is written with keeps to. -/
theorem acceptedHead_canonical {head : Bytes} {line : String} {fields : Fields} {start : RequestLine}
    {maxHeader maxUrl : Nat} (hhead : Head.parse head maxHeader = .ok (line, fields))
    (hline : RequestLine.parse line maxUrl = .ok start) :
    (∀ f ∈ fields.toList, f.Sendable) ∧
      ∀ r : Request, r.line = start → r.fields = fields →
        split? r.head = some (r.head, []) ∧
        (∀ u v, r.head = u ++ (blankLine ++ v) → v = []) ∧
        (∀ limit, Head.parse r.head limit =
          if fields.wire.length ≤ limit then .ok (line, fields) else .error (.headerTooLarge limit)) ∧
        RequestLine.parse line maxUrl = .ok r.line := by
  have hsend := sendable_of_parse hhead
  have hcount := size_le_of_parse hhead
  obtain ⟨rfl, hfits⟩ := RequestLine.parse_eq_ok_iff.1 hline
  refine ⟨hsend, ?_⟩
  rintro r rfl rfl
  have hfound : split? r.head = some (r.head, []) := by
    have h := split?_head hfits hsend []
    rwa [List.append_nil] at h
  refine ⟨hfound, fun u v => blankLine_only_at_end hfound, fun limit => ?_, hline⟩
  split
  · next hlen => exact parse_head hfits hsend hcount hlen
  · next hlong => exact parse_of_long_section (splitLine?_head hfits) (Nat.lt_of_not_le hlong)

/-- A head with a byte that is no text in a value, and tabs before, after and inside the value. -/
def raggedHead : Bytes :=
  Text.utf8 "GET /a HTTP/1.1\r\nX-Note:\ta" ++ 255 :: Text.utf8 "\tb\t\r\n\r\n"

/-- The field that is left of it. -/
def raggedField : Field := ⟨"X-Note", "a\uFFFD\tb"⟩

/-- What is written of the head has a section of 18 bytes in place of 17, and is read back under a limit of 18. -/
theorem raggedHead_canonical :
    let r : Request := { target := "/a", fields := ⟨[raggedField]⟩ }
    Head.parse raggedHead 17 = .ok ("GET /a HTTP/1.1", ⟨[raggedField]⟩) ∧
      RequestLine.parse "GET /a HTTP/1.1" 2 = .ok r.line ∧ raggedField.Sendable ∧
      r.head = Text.utf8 "GET /a HTTP/1.1\r\nX-Note: a\uFFFD\tb\r\n\r\n" ∧
      Head.parse r.head 18 = .ok ("GET /a HTTP/1.1", ⟨[raggedField]⟩) ∧
      Head.parse r.head 17 = .error (.headerTooLarge 17) := by
  intro r
  have hhead : Head.parse raggedHead 17 = .ok ("GET /a HTTP/1.1", ⟨[raggedField]⟩) := by decide +kernel
  have hline : RequestLine.parse "GET /a HTTP/1.1" 2 = .ok r.line := by decide +kernel
  obtain ⟨hsend, hwritten⟩ := acceptedHead_canonical hhead hline
  obtain ⟨-, -, hread, -⟩ := hwritten r rfl rfl
  exact ⟨hhead, hline, hsend raggedField List.mem_cons_self, by decide +kernel, hread 18, hread 17⟩

end Switchboard.Http
