import Switchboard.Proofs.Http.Chunk.Completeness
import Switchboard.Proofs.Http.Chunk.Soundness

/-!
The decoder of the chunked coding decodes the chunked bodies, and nothing else. What it accepts is a body,
whose data and fields it gives out (`framed_of_runs`); a body within the limits is accepted (`runs_framed`);
both hold however the input is cut into pieces.
-/

namespace Switchboard.Http.Chunk

theorem chunked_bodies_decoded_exactly (maxBody maxTrailer : UInt64) (previous : Decoder) :
    let d := Decoder.start
      { previous with maxBody := maxBody.toNat, maxTrailer := maxTrailer.toNat }
    (∀ (pieces : List Bytes) (n : Nat),
      (d.decodePieces pieces).result = .ok n → (d.decodePieces pieces).decoder.isFinished = true →
        (∃ (f : Framed) (rest : Bytes), f.Follows LooseExtension ∧
          pieces.flatten = f.wire ++ rest ∧ n = f.wire.length ∧
          (d.decodePieces pieces).data = f.data ∧ (d.decodePieces pieces).trailers = f.fields) ∧
        ∀ more : Bytes, (d.decodePieces pieces).decoder.decode more =
          { decoder := (d.decodePieces pieces).decoder }) ∧
    (∀ (f : Framed) (rest : Bytes) (pieces : List Bytes),
      f.Follows Extension → f.data.length ≤ maxBody.toNat → f.trailerWeight ≤ maxTrailer.toNat →
      pieces.flatten = f.wire ++ rest →
        (d.decodePieces pieces).result = .ok f.wire.length ∧
        (d.decodePieces pieces).decoder.isFinished = true ∧
        (d.decodePieces pieces).data = f.data ∧ (d.decodePieces pieces).trailers = f.fields) := by
  intro d
  refine ⟨?_, ?_⟩
  · intro pieces n hn hfin
    rw [decodePieces_eq] at hn hfin ⊢
    obtain ⟨hle, hr, -⟩ := runs_of_decode hn
    obtain ⟨f, hf, hw, hdata, hfields⟩ := framed_of_runs hr rfl hfin
    refine ⟨⟨f, pieces.flatten.drop n, hf, ?_, ?_, hdata, hfields⟩, decode_of_finished hfin⟩
    · rw [← hw, List.take_append_drop]
    · rw [← hw, List.length_take, Nat.min_eq_left hle]
  · intro f rest pieces hf hbody htrailer hp
    have hw : d.maxBody < Text.wordSize := maxBody.toNat_lt
    have hl : f.data.length ≤ d.maxBody - d.total := hbody
    have ht : d.trailerBytes + f.trailerWeight ≤ d.maxTrailer := by
      show 0 + f.trailerWeight ≤ maxTrailer.toNat
      omega
    obtain ⟨e, he, hr⟩ := runs_framed hf hw hl ht
    have hr : Runs d f.wire e f.data f.fields := hr
    rw [decodePieces_eq, hp, decode_of_runs hr he]
    exact ⟨rfl, he, data_ran e f.wire f.data f.fields, trailers_ran e f.wire f.data f.fields⟩

/-- A body of one chunk with an extension, and one trailer line. -/
def wikiBody : Framed where
  chunks := [⟨Text.utf8 "04", Text.utf8 ";a=\"b\"", Text.utf8 "Wiki"⟩]
  lastDigits := Text.utf8 "0"
  lastExtension := []
  trailers := [⟨Text.utf8 "A", Text.utf8 " b"⟩]

theorem wikiBody_follows : wikiBody.Follows Extension where
  chunks := by
    intro c hc
    rcases List.mem_singleton.1 hc with rfl
    have hq : QuotedInside (Text.utf8 "b") := .plain (by decide +kernel) .nil
    have he : Extension (59 :: (Text.utf8 "a" ++ 61 :: (34 :: (Text.utf8 "b" ++ [34]) ++ []))) :=
      .value (by decide +kernel) (.quoted hq) .nil
    exact ⟨by decide +kernel, by decide +kernel, he⟩
  lastSize := by decide +kernel
  lastExtension := .nil
  trailers := by
    intro l hl
    rcases List.mem_singleton.1 hl with rfl
    exact ⟨by decide +kernel, by decide +kernel⟩

/-- A body that uses up both limits, cut inside its data and followed by other bytes. -/
theorem wikiBody_decoded_exactly :
    let d := Decoder.start { Decoder.unlimited with maxBody := 4, maxTrailer := 5 }
    let pieces := [Text.utf8 "04;a=\"b\"\r\nWi", Text.utf8 "ki\r\n0\r\nA: b\r\n\r\nGET"]
    ((d.decodePieces pieces).result = .ok 27 ∧ (d.decodePieces pieces).data = Text.utf8 "Wiki" ∧
      (d.decodePieces pieces).trailers = [⟨"A", "b"⟩]) ∧
    ∃ (f : Framed) (rest : Bytes), f.Follows LooseExtension ∧ pieces.flatten = f.wire ++ rest ∧
      f.wire.length = 27 := by
  intro d pieces
  obtain ⟨hsound, hcomplete⟩ := chunked_bodies_decoded_exactly 4 5 Decoder.unlimited
  obtain ⟨hresult, hfin, hdata, htrailers⟩ := hcomplete wikiBody (Text.utf8 "GET") pieces
    wikiBody_follows (by decide) (by decide) (by decide)
  obtain ⟨⟨f, rest, hf, hp, hlen, -, -⟩, -⟩ := hsound pieces 27 hresult hfin
  exact ⟨⟨hresult, hdata, htrailers⟩, f, rest, hf, hp, hlen.symm⟩

end Switchboard.Http.Chunk
