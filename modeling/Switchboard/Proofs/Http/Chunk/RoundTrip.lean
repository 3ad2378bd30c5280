import Switchboard.Proofs.Http.Chunk.Encoding

/-!
What the writer of the chunked coding writes is read back by the decoder, however it is handed over. A reader hands
the decoder one slice of a stream after the other, each from where the decoder left the one before
(`Decoder.feed`); that is decoding as much of the stream as the slices cover (`feed_eq`). As long as they cover a
part of what was written the decoder takes all of it and goes on; once they cover the whole it has finished, at the
last byte written (`written_chunks_read_back`).
-/

namespace Switchboard.Http.Chunk

/-- Decodes a stream slice by slice, each slice from the first byte that was not taken, until a byte is refused. -/
def Decoder.feed (d : Decoder) (stream : Bytes) : List Nat → Progress
  | [] => { decoder := d }
  | n :: slices =>
    let p := d.decode (stream.take n)
    if p.fault.isSome then p else p.before (p.decoder.feed (stream.drop p.consumed) slices)

/-- A decoder that has finished takes nothing of any slice. -/
theorem feed_of_finished {d : Decoder} (h : d.isFinished = true) (stream : Bytes) (slices : List Nat) :
    d.feed stream slices = { decoder := d } := by
  induction slices generalizing stream with
  | nil => rfl
  | cons n slices ih =>
    unfold Decoder.feed
    rw [decode_of_finished h]
    show Progress.before { decoder := d } (d.feed stream slices) = { decoder := d }
    rw [ih]
    rfl

/-- How a stream is cut into slices does not matter, but for how far they go. -/
theorem feed_eq (d : Decoder) (stream : Bytes) (slices : List Nat) :
    d.feed stream slices = d.decode (stream.take slices.sum) := by
  induction slices generalizing d stream with
  | nil => rfl
  | cons n slices ih =>
    have hsplit : stream.take (n + slices.sum) = stream.take n ++ (stream.drop n).take slices.sum :=
      List.take_add
    rw [List.sum_cons, hsplit, decode_cut]
    show (if (d.decode (stream.take n)).fault.isSome then d.decode (stream.take n)
      else (d.decode (stream.take n)).before
        ((d.decode (stream.take n)).decoder.feed (stream.drop (d.decode (stream.take n)).consumed) slices)) = _
    by_cases hfault : (d.decode (stream.take n)).fault.isSome = true
    · rw [if_pos hfault, if_pos hfault]
    rw [if_neg hfault, if_neg hfault]
    by_cases hfin : (d.decode (stream.take n)).decoder.isFinished = true
    · rw [feed_of_finished hfin, decode_of_finished hfin]
    -- the whole slice was taken, so that the next one begins where it ends
    · have hall := consumed_of_not_finished (by simpa using hfault) (by simpa using hfin)
      rw [hall, List.length_take]
      rcases Nat.le_total n stream.length with hn | hn
      · rw [Nat.min_eq_left hn, ih]
      · have hdrop : stream.drop n = [] := List.drop_eq_nil_of_le hn
        rw [Nat.min_eq_right hn, List.drop_length, hdrop, ih]

/-- A part of the bytes of a run is taken as a whole, and does not end the body yet; data and fields begin with what
comes out of it. -/
theorem decode_take_of_runs {d e : Decoder} {w data : Bytes} {fields : List Field}
    (hr : Runs d w e data fields) {n : Nat} (hn : n < w.length) :
    (d.decode (w.take n)).fault = none ∧ (d.decode (w.take n)).consumed = n ∧
      (d.decode (w.take n)).decoder.isFinished = false ∧
      (d.decode (w.take n)).data <+: data ∧ (d.decode (w.take n)).trailers <+: fields := by
  have hlen : (w.take n).length = n := by
    rw [List.length_take]
    omega
  have hcut : d.decode (w.take n ++ w.drop n) = ran e w data fields := by
    rw [List.take_append_drop]
    exact decode_eq_ran hr
  have hfault : (d.decode (w.take n)).fault = none := by
    rcases hf : (d.decode (w.take n)).fault with _ | f
    · rfl
    · have hstop := decode_append_of_stopped (Or.inl (by rw [hf]; rfl)) (w.drop n)
      rw [hcut] at hstop
      rw [← hstop] at hf
      exact absurd hf (by simp [ran])
  have hfin : (d.decode (w.take n)).decoder.isFinished = false := by
    rw [Bool.eq_false_iff]
    intro hfin
    -- otherwise all bytes of the run would have been taken from fewer
    have hstop := decode_append_of_stopped (Or.inr hfin) (w.drop n)
    have hle := consumed_le hfault
    rw [← hstop, hcut, hlen] at hle
    have hconsumed : (ran e w data fields).consumed = w.length := rfl
    omega
  have hconsumed := consumed_of_not_finished hfault hfin
  rw [hlen] at hconsumed
  have hbefore : (d.decode (w.take n)).before ((d.decode (w.take n)).decoder.decode (w.drop n)) =
      ran e w data fields := by
    rw [← hcut, decode_cut, hfault]
    rfl
  refine ⟨hfault, hconsumed, hfin, ?_, ?_⟩
  · have hdata := congrArg Progress.data hbefore
    rw [Progress.data_before, data_ran] at hdata
    exact ⟨_, hdata⟩
  · have htrailers := congrArg Progress.trailers hbefore
    rw [Progress.trailers_before, trailers_ran] at htrailers
    exact ⟨_, htrailers⟩

/-- The bytes of a run that ends the body, with others after them, in slices: the decoder takes what the slices cover
of the run and nothing else, and ends exactly when they cover all of it. -/
theorem feed_of_runs {d e : Decoder} {w data : Bytes} {fields : List Field}
    (hr : Runs d w e data fields) (he : e.isFinished = true) (more : Bytes) (slices : List Nat) :
    let p := d.feed (w ++ more) slices
    p.fault = none ∧ p.consumed = min slices.sum w.length ∧
      (p.decoder.isFinished = true ↔ w.length ≤ slices.sum) ∧
      p.data <+: data ∧ p.trailers <+: fields ∧
      (w.length ≤ slices.sum → p.data = data ∧ p.trailers = fields) := by
  intro p
  have hp : p = d.decode ((w ++ more).take slices.sum) := feed_eq d (w ++ more) slices
  rcases Nat.lt_or_ge slices.sum w.length with hlt | hge
  · rw [List.take_append_of_le_length (Nat.le_of_lt hlt)] at hp
    obtain ⟨hfault, hconsumed, hfin, hdata, htrailers⟩ := decode_take_of_runs hr hlt
    rw [← hp] at hfault hconsumed hfin hdata htrailers
    refine ⟨hfault, ?_, ?_, hdata, htrailers, fun hge => absurd hlt (Nat.not_lt.2 hge)⟩
    · rw [hconsumed, Nat.min_eq_left (Nat.le_of_lt hlt)]
    · rw [hfin]
      exact ⟨fun h => absurd h Bool.false_ne_true, fun hge => absurd hlt (Nat.not_lt.2 hge)⟩
  · have htake : (w ++ more).take slices.sum = w ++ more.take (slices.sum - w.length) := by
      rw [List.take_append, List.take_of_length_le hge]
    have hran : p = ran e w data fields := by
      rw [hp, htake, decode_of_runs hr he]
    have hdata : p.data = data := by rw [hran, data_ran]
    have htrailers : p.trailers = fields := by rw [hran, trailers_ran]
    refine ⟨by rw [hran]; rfl, ?_, ?_, hdata ▸ List.prefix_rfl, htrailers ▸ List.prefix_rfl,
      fun _ => ⟨hdata, htrailers⟩⟩
    · rw [hran, Nat.min_eq_right hge]
      rfl
    · rw [hran]
      exact ⟨fun _ => hge, fun _ => he⟩

/-- A body as it is written is decoded in one go. -/
theorem decodeBody_encodeBody {data : Bytes} (hl : data.length < Text.wordSize) (size : Nat) :
    decodeBody (encodeBody data size) = .ok (data, .empty) := by
  have hw : Decoder.unlimited.maxBody < Text.wordSize := by decide
  have hle : data.length ≤ Decoder.unlimited.maxBody := Nat.le_pred_of_lt hl
  obtain ⟨e, he, hdecode⟩ := decode_encodeBody (d := Decoder.unlimited) hw hle size []
  rw [List.append_nil] at hdecode
  have hfin : (ran e (encodeBody data size) data []).decoder.isFinished = true := he
  unfold decodeBody
  rw [hdecode]
  simp only [hfin, data_ran, trailers_ran, if_true]
  rfl

/-- Chunks with extensions or without, then trailer fields, as they are written, are read back by a started decoder
with room for them, in slices of any lengths and with any bytes after them: the decoder takes just the bytes that
were written, ends exactly at the last one, and has given back the data of the chunks in a row and the fields
without the blanks at the ends of their values. A body of chunks of one size is decoded in one go. -/
theorem written_chunks_read_back (maxBody maxTrailer : UInt64) (previous : Decoder)
    {chunks : List (Bytes × String)} {trailers : Fields}
    (hext : ∀ c ∈ chunks, c.2 = "" ∨ Extension (59 :: Text.utf8 c.2))
    (htrailers : ∀ f ∈ trailers.toList, f.Writable)
    (hdata : (chunks.flatMap (·.1)).length ≤ maxBody.toNat)
    (hcount : (trailers.toList.map fun f => f.line.length + 1).sum ≤ maxTrailer.toNat) :
    let d := Decoder.start
      { previous with maxBody := maxBody.toNat, maxTrailer := maxTrailer.toNat }
    let wire := chunks.flatMap (fun c => encodeChunk c.1 c.2) ++ encodeEnd trailers
    (∀ (more : Bytes) (slices : List Nat),
      let p := d.feed (wire ++ more) slices
      p.fault = none ∧ p.consumed = min slices.sum wire.length ∧
        (p.decoder.isFinished = true ↔ wire.length ≤ slices.sum) ∧
        p.data <+: chunks.flatMap (·.1) ∧ p.trailers <+: trailers.toList.map Field.trimmed ∧
        (wire.length ≤ slices.sum →
          p.data = chunks.flatMap (·.1) ∧ p.trailers = trailers.toList.map Field.trimmed)) ∧
    ∀ (data : Bytes) (size : Nat), data.length < Text.wordSize →
      decodeBody (encodeBody data size) = .ok (data, .empty) := by
  intro d wire
  refine ⟨fun more slices => ?_, fun data size hl => decodeBody_encodeBody hl size⟩
  obtain ⟨e, he, hr⟩ := runs_encodeChunks
    (d := { previous with maxBody := maxBody.toNat, maxTrailer := maxTrailer.toNat })
    maxBody.toNat_lt hext htrailers hdata hcount
  exact feed_of_runs hr he more slices

/-- Two chunks, an empty one between them, and a trailer field with blanks around its value, fed in three slices of
which the second ends inside the trailer. -/
theorem greeting_read_back :
    let d := Decoder.start { Decoder.unlimited with maxBody := 8, maxTrailer := 8 }
    let wire := [(Text.utf8 "hello", ""), ([], "a"), (Text.utf8 "you", "a=\"b\"")].flatMap
      (fun c => encodeChunk c.1 c.2) ++ encodeEnd ⟨[⟨"A", " b \t"⟩]⟩
    (d.feed (wire ++ Text.utf8 "GET") [7, 25, 40]).consumed = 38 ∧
    (d.feed (wire ++ Text.utf8 "GET") [7, 25]).decoder.isFinished = false ∧
    (d.feed (wire ++ Text.utf8 "GET") [7, 25, 40]).data = Text.utf8 "helloyou" ∧
    (d.feed (wire ++ Text.utf8 "GET") [7, 25, 40]).trailers = [⟨"A", "b"⟩] := by
  intro d wire
  have hext : ∀ c ∈ [(Text.utf8 "hello", ""), ([], "a"), (Text.utf8 "you", "a=\"b\"")],
      c.2 = "" ∨ Extension (59 :: Text.utf8 c.2) := by
    have hname : Extension (59 :: (Text.utf8 "a" ++ [])) := .name (by decide +kernel) .nil
    have hquoted : QuotedInside (Text.utf8 "b") := .plain (by decide +kernel) .nil
    have hvalue : Extension (59 :: (Text.utf8 "a" ++ 61 :: (34 :: (Text.utf8 "b" ++ [34]) ++ []))) :=
      .value (by decide +kernel) (.quoted hquoted) .nil
    intro c hc
    simp only [List.mem_cons, List.not_mem_nil, or_false] at hc
    rcases hc with rfl | rfl | rfl
    · exact Or.inl rfl
    · exact Or.inr hname
    · exact Or.inr hvalue
  have htrailers : ∀ f ∈ (⟨[⟨"A", " b \t"⟩]⟩ : Fields).toList, f.Writable := by
    intro f hf
    obtain rfl := List.mem_singleton.1 hf
    have hvalue : " b \t".toList.all (fun c => !Text.isControl c || c == '\t') = true := by decide
    refine ⟨by decide, List.all_eq_true.1 (by decide : "A".toList.all Text.isTokenChar = true), ?_⟩
    intro c hc hcontrol
    have htab := List.all_eq_true.1 hvalue c hc
    rw [hcontrol] at htab
    exact beq_iff_eq.1 htab
  obtain ⟨hfeed, -⟩ := written_chunks_read_back 8 8 Decoder.unlimited hext htrailers (by decide) (by decide)
  obtain ⟨-, hconsumed, -, -, -, hall⟩ := hfeed (Text.utf8 "GET") [7, 25, 40]
  obtain ⟨-, -, hfin, -⟩ := hfeed (Text.utf8 "GET") [7, 25]
  have hlen : wire.length = 38 := by decide +kernel
  obtain ⟨hdata, hfields⟩ := hall (by rw [hlen]; decide)
  refine ⟨hconsumed.trans (by rw [hlen]; rfl), ?_, hdata, hfields⟩
  rw [Bool.eq_false_iff]
  intro h
  have hle := hfin.1 h
  rw [hlen] at hle
  exact absurd hle (by decide)

end Switchboard.Http.Chunk
