import MudController.Services.Fetch

/-!
# `Profile.Fetching` — chunks and buffers do not show in the fetched text

The loops of `fetch_mud` over a decoder of which only the laws of its single calls are known
(`Transducer.Lawful`). At every point the output, what the buffer holds and what the decoder makes of the bytes
still to come are together the text of the whole body (`FetchState.Stands`); every turn keeps that. So the
loops end, no slice is out of bounds, and what is returned is the text of the body, however it was cut into
chunks (`read_text`).
-/

namespace MudController

open Logic

section

variable [Charsets] {m : Meaning Charsets.Decoder} {s : FetchState} {held : String}

/-- The text in the buffer that is not flushed yet. -/
structure FetchState.Holds (s : FetchState) (held : String) : Prop where
  front : ∃ free, s.buffer = held ++ free
  size : s.buffer.utf8ByteSize = bufferSize
  bytes : s.bytesInBuffer = held.utf8ByteSize

theorem holds_init (decoder : Charsets.Decoder) : (FetchState.init decoder).Holds "" where
  front := ⟨_, String.empty_append.symm⟩
  size := utf8ByteSize_replicate bufferSize '\x00'
  bytes := rfl

/-- The buffer splits where its text ends. -/
theorem FetchState.Holds.split (h : s.Holds held) :
    ∃ free, splitAtByte s.buffer s.bytesInBuffer = some (held, free) ∧
      free.utf8ByteSize + s.bytesInBuffer = bufferSize := by
  obtain ⟨free, hbuffer⟩ := h.front
  refine ⟨free, ?_, ?_⟩
  · rw [hbuffer, h.bytes]
    exact splitAtByte_append held free
  · rw [h.bytes, ← h.size, hbuffer, String.utf8ByteSize_append, Nat.add_comm]

/-- Flushing moves the text of the buffer to the output. -/
theorem flush_of_holds (h : s.Holds held) :
    ∃ s', s.flush = .ok s' ∧ s'.decoder = s.decoder ∧ s'.output = s.output ++ held ∧ s'.Holds "" ∧
      s'.bytesInBuffer = 0 := by
  obtain ⟨free, hsplit, -⟩ := h.split
  refine ⟨{ s with output := s.output ++ held, bytesInBuffer := 0 }, ?_, rfl, rfl,
    ⟨⟨s.buffer, String.empty_append.symm⟩, h.size, rfl⟩, rfl⟩
  rw [FetchState.flush, hsplit]

/-- What a call of the decoder without errors leaves: `decoded` was written behind the text of the buffer. -/
structure DecodedInto (s : FetchState) (held : String) (src : List UInt8) (free : String) (last : Bool)
    (s' : FetchState) : Prop where
  free_size : free.utf8ByteSize + s.bytesInBuffer = bufferSize
  no_errors : (Charsets.decodeToStr s.decoder src free last).hadErrors = false
  output : s'.output = s.output
  decoder : s'.decoder = (Charsets.decodeToStr s.decoder src free last).next
  holds : s'.Holds (held ++ (Charsets.decodeToStr s.decoder src free last).text)

/-- The decoder reports errors in some call. -/
def Charsets.ReportsErrors : Prop :=
  ∃ d src dst last, (Charsets.decodeToStr d src dst last).hadErrors = true

/-- The failure for errors that the decoder reports. -/
def Misread (e : FetchFailure) : Prop := e = .decodingError ∧ Charsets.ReportsErrors

/-- A call of the decoder fails with its errors, and with nothing else. -/
theorem decode_cases (hlaw : Charsets.decodeToStr.Lawful m bufferSize) (husable : m.usable s.decoder)
    (h : s.Holds held) (src : List UInt8) (last : Bool) :
    (s.decode src last = .error .decodingError ∧ Charsets.ReportsErrors) ∨
    ∃ free s', s.decode src last = .ok (Charsets.decodeToStr s.decoder src free last, s') ∧
      DecodedInto s held src free last s' := by
  obtain ⟨free, hsplit, hfree⟩ := h.split
  unfold FetchState.decode
  rw [hsplit]
  cases herrors : (Charsets.decodeToStr s.decoder src free last).hadErrors with
  | true => exact .inl ⟨if_pos herrors, _, _, _, _, herrors⟩
  | false =>
      have hclean : ¬(Charsets.decodeToStr s.decoder src free last).hadErrors = true := by
        rw [herrors]
        exact Bool.false_ne_true
      refine .inr ⟨free, _, if_neg hclean, hfree, herrors, rfl, rfl, ?_, ?_, ?_⟩
      · exact ⟨(Charsets.decodeToStr s.decoder src free last).rest, (String.append_assoc ..).symm⟩
      · have hfits := hlaw.fits husable src free last
        show (held ++ _).utf8ByteSize = bufferSize
        rw [String.utf8ByteSize_append, hfits, ← h.bytes, Nat.add_comm]
        exact hfree
      · show s.bytesInBuffer + _ = _
        rw [String.utf8ByteSize_append, h.bytes]

/-- The output, the text of the buffer and what the decoder makes of the bytes `left` and of those after them
    are together the text `whole` of the bytes after them. -/
structure FetchState.Stands (m : Meaning Charsets.Decoder) (whole : List UInt8 → String) (s : FetchState)
    (left : List UInt8) : Prop where
  usable : m.usable s.decoder
  text : ∃ held, s.Holds held ∧ ∀ more, s.output ++ held ++ m.text s.decoder (left ++ more) = whole more

/-- With no more bytes to come, they are together the text `text`. -/
structure FetchState.Pending (m : Meaning Charsets.Decoder) (text : String) (s : FetchState) : Prop where
  usable : m.usable s.decoder
  text : ∃ held, s.Holds held ∧ s.output ++ held ++ m.text s.decoder [] = text

/-- A result as wanted, or an allowed failure. -/
def OkOr {α : Type} (allowed : FetchFailure → Prop) (wanted : α → Prop) : Except FetchFailure α → Prop
  | .ok a => wanted a
  | .error e => allowed e

variable {whole : List UInt8 → String} {left chunk : List UInt8} {last : Bool} {free : String} {s' : FetchState}

/-- What the state stands for, after a call to which more bytes may follow. -/
theorem DecodedInto.stands (hlaw : Charsets.decodeToStr.Lawful m bufferSize)
    (husable : m.usable s.decoder)
    (hw : DecodedInto s held left free false s')
    (htext : ∀ more, s.output ++ held ++ m.text s.decoder (left ++ more) = whole more) :
    s'.Stands m whole (left.drop (Charsets.decodeToStr s.decoder left free false).read) := by
  obtain ⟨hnext, hfeeds⟩ := hlaw.feeds husable hw.no_errors
  refine ⟨hw.decoder ▸ hnext, _, hw.holds, fun more => ?_⟩
  rw [hw.output, hw.decoder, ← htext more, hfeeds more]
  simp only [String.append_assoc]

/-- After a call that reads all bytes, it stands for what comes next. -/
theorem DecodedInto.stands_consumed (hlaw : Charsets.decodeToStr.Lawful m bufferSize)
    (husable : m.usable s.decoder)
    (hw : DecodedInto s held left free false s')
    (htext : ∀ more, s.output ++ held ++ m.text s.decoder (left ++ more) = whole more)
    (hresult : (Charsets.decodeToStr s.decoder left free false).result = .inputEmpty) :
    s'.Stands m whole [] := by
  have hstands := hw.stands hlaw husable htext
  rwa [hlaw.consumed husable hw.no_errors hresult, List.drop_length] at hstands

/-- What the state stands for does not change when the buffer is flushed. -/
theorem FetchState.Stands.flush (h : s.Stands m whole left) :
    ∃ s', s.flush = .ok s' ∧ s'.decoder = s.decoder ∧ s'.bytesInBuffer = 0 ∧ s'.Stands m whole left := by
  obtain ⟨husable, held, hholds, htext⟩ := h
  obtain ⟨s', hflush, hdecoder, houtput, hholds', hempty⟩ := flush_of_holds hholds
  refine ⟨s', hflush, hdecoder, hempty, hdecoder ▸ husable, "", hholds', fun more => ?_⟩
  rw [houtput, hdecoder, String.append_empty]
  exact htext more

/-! ## The loop over a chunk -/

/-- What makes the loop over a chunk end: the bytes left, the text they stand for, and whether there is text in
    the buffer to be flushed. -/
def chunkMeasure (m : Meaning Charsets.Decoder) (chunk : List UInt8) (p : FetchState × Nat) : Nat :=
  2 * ((chunk.drop p.2).length + (m.text p.1.decoder (chunk.drop p.2)).utf8ByteSize) + min p.1.bytesInBuffer 1

/-- Where a turn finds the loop over a chunk. -/
def InChunk (m : Meaning Charsets.Decoder) (whole : List UInt8 → String) (chunk : List UInt8)
    (p : FetchState × Nat) : Prop :=
  p.2 ≤ chunk.length ∧ p.1.Stands m whole (chunk.drop p.2)

/-- A call that found no space has read something or written something, or the buffer was not empty. -/
theorem DecodedInto.decreases (hlaw : Charsets.decodeToStr.Lawful m bufferSize)
    (husable : m.usable s.decoder)
    (hw : DecodedInto s held left free last s')
    (hfull : (Charsets.decodeToStr s.decoder left free last).result = .outputFull)
    (htext : m.text s.decoder left = (Charsets.decodeToStr s.decoder left free last).text ++
      m.text s'.decoder (left.drop (Charsets.decodeToStr s.decoder left free last).read)) :
    2 * ((left.drop (Charsets.decodeToStr s.decoder left free last).read).length +
      (m.text s'.decoder (left.drop (Charsets.decodeToStr s.decoder left free last).read)).utf8ByteSize) <
    2 * (left.length + (m.text s.decoder left).utf8ByteSize) + min s.bytesInBuffer 1 := by
  have hread := hlaw.read_le husable left free last
  have hfree := hw.free_size
  rw [htext, String.utf8ByteSize_append, List.length_drop]
  by_cases hempty : s.bytesInBuffer = 0
  · have hspace : bufferSize ≤ free.utf8ByteSize := by omega
    rcases hlaw.progress husable hw.no_errors hfull hspace with hsome | hsome
    · omega
    · have hpos : 0 < (Charsets.decodeToStr s.decoder left free last).text.utf8ByteSize :=
        Nat.pos_of_ne_zero fun h => hsome (String.utf8ByteSize_eq_zero_iff.mp h)
      omega
  · omega

/-- A turn whose call reads the rest of the chunk is the last one. -/
theorem chunkTurn_of_inputEmpty {totalRead : Nat} {decoded : Decoded Charsets.Decoder}
    (hle : totalRead ≤ chunk.length)
    (hdecode : s.decode (chunk.drop totalRead) false = .ok (decoded, s'))
    (hresult : decoded.result = .inputEmpty) : chunkTurn chunk (s, totalRead) = .ok (.stop s') := by
  simp only [chunkTurn, bytesFrom, if_pos hle, hdecode, hresult, bind, Except.bind, pure, Except.pure]

/-- A turn over a chunk reports errors, has read the chunk, or is nearer to it. -/
theorem chunkTurn_onItsWay (hlaw : Charsets.decodeToStr.Lawful m bufferSize) (p : FetchState × Nat)
    (h : InChunk m whole chunk p) :
    OnItsWay (InChunk m whole chunk) (chunkMeasure m chunk)
      (OkOr Misread fun s' : FetchState => s'.Stands m whole []) (chunkMeasure m chunk p)
      (chunkTurn chunk p) := by
  obtain ⟨s, totalRead⟩ := p
  obtain ⟨hle, husable, held, hholds, htext⟩ := h
  have hle : totalRead ≤ chunk.length := hle
  have hread := hlaw.read_le husable (chunk.drop totalRead)
  rw [List.length_drop] at hread
  rcases decode_cases hlaw husable hholds (chunk.drop totalRead) false with
    ⟨hdecode, herrors⟩ | ⟨free, s', hdecode, hw⟩
  · have hturn : chunkTurn chunk (s, totalRead) = .error .decodingError := by
      simp only [chunkTurn, bytesFrom, if_pos hle, hdecode, bind, Except.bind]
    rw [hturn]
    exact .fails _ ⟨rfl, herrors⟩
  · cases hresult : (Charsets.decodeToStr s.decoder (chunk.drop totalRead) free false).result with
    | inputEmpty =>
        rw [chunkTurn_of_inputEmpty hle hdecode hresult]
        exact .stop _ (hw.stands_consumed hlaw husable htext hresult)
    | outputFull =>
        obtain ⟨s'', hflush, hdecoder, hempty, hstands'⟩ := (hw.stands hlaw husable htext).flush
        have hturn : chunkTurn chunk (s, totalRead) = .ok (.again (s'', totalRead +
            (Charsets.decodeToStr s.decoder (chunk.drop totalRead) free false).read)) := by
          simp only [chunkTurn, bytesFrom, if_pos hle, hdecode, hresult, hflush, bind, Except.bind, pure,
            Except.pure]
        have hfeeds := (hlaw.feeds husable hw.no_errors).2 []
        rw [List.append_nil, List.append_nil, ← hw.decoder] at hfeeds
        have hdecreases := hw.decreases hlaw husable hresult hfeeds
        rw [List.drop_drop] at hstands' hdecreases
        rw [hturn]
        refine .again _ ⟨?_, hstands'⟩ ?_
        · exact Nat.add_le_of_le_sub' hle (hread free false)
        · unfold chunkMeasure
          simp only [hdecoder, hempty, Nat.zero_min, Nat.add_zero]
          exact hdecreases

/-- The loop over a chunk reports errors or has read the chunk. -/
theorem chunkLoop_ends (hlaw : Charsets.decodeToStr.Lawful m bufferSize)
    (h : s.Stands m whole chunk) :
    Ends (fun turns => loop (chunkTurn chunk) turns (s, 0))
      (OkOr Misread fun s' : FetchState => s'.Stands m whole []) :=
  loop_ends (chunkTurn_onItsWay hlaw) ⟨Nat.zero_le _, h⟩

/-! ## The loop over the chunks -/

variable {chunks : List (List UInt8)}

/-- A chunk may be read without looking at the bytes after it. -/
theorem FetchState.Stands.split {rest : List UInt8} (h : s.Stands m whole (left ++ rest)) :
    ∃ whole', s.Stands m whole' left ∧ ∀ s' : FetchState, s'.Stands m whole' [] → s'.Stands m whole rest := by
  obtain ⟨husable, held, hholds, htext⟩ := h
  refine ⟨fun more => s.output ++ held ++ m.text s.decoder (left ++ more),
    ⟨husable, held, hholds, fun _ => rfl⟩, ?_⟩
  rintro s' ⟨husable', held', hholds', htext'⟩
  refine ⟨husable', held', hholds', fun more => ?_⟩
  have hread := htext' (rest ++ more)
  rwa [List.nil_append, ← List.append_assoc, htext more] at hread

/-- All chunks are read, or one is refused. -/
theorem readChunks_ends (hlaw : Charsets.decodeToStr.Lawful m bufferSize)
    (h : s.Stands m whole chunks.flatten) :
    Ends (fun turns => readChunks turns chunks s)
      (OkOr (fun e => e = .tooLong ∨ Misread e) fun s' : FetchState => s'.Stands m whole []) := by
  induction chunks generalizing s with
  | nil => exact ends_now h
  | cons chunk chunks ih =>
      by_cases hshort : s.output.utf8ByteSize + chunk.length < maxLen
      · obtain ⟨whole', hchunk, hrest⟩ := h.split
        simp only [readChunks, if_pos hshort]
        exact (chunkLoop_ends hlaw hchunk).andThen (fun _ he => .inr he) fun s' hs' => ih (hrest s' hs')
      · simp only [readChunks, if_neg hshort]
        exact ends_now (.inl rfl)

/-! ## The loop after the last chunk -/

/-- What makes the last loop end: the text that is pending in the decoder, and the text to be flushed. -/
def finalMeasure (m : Meaning Charsets.Decoder) (s : FetchState) : Nat :=
  2 * (m.text s.decoder []).utf8ByteSize + min s.bytesInBuffer 1

/-- A turn after the last chunk reports errors, has written all the text, or is nearer to it. -/
theorem finalTurn_onItsWay (hlaw : Charsets.decodeToStr.Lawful m bufferSize) (text : String)
    (s : FetchState) (h : s.Pending m text) :
    OnItsWay (FetchState.Pending m text) (finalMeasure m)
      (OkOr Misread fun s' : FetchState => s'.output = text) (finalMeasure m s) (finalTurn s) := by
  obtain ⟨husable, held, hholds, htext⟩ := h
  rcases decode_cases hlaw husable hholds [] true with ⟨hdecode, herrors⟩ | ⟨free, s', hdecode, hw⟩
  · have hturn : finalTurn s = .error .decodingError := by
      simp only [finalTurn, hdecode, bind, Except.bind]
    rw [hturn]
    exact .fails _ ⟨rfl, herrors⟩
  · obtain ⟨s'', hflush, hdecoder, houtput, hholds', hempty⟩ := flush_of_holds hw.holds
    rw [hw.output] at houtput
    cases hresult : (Charsets.decodeToStr s.decoder [] free true).result with
    | inputEmpty =>
        have hturn : finalTurn s = .ok (.stop s'') := by
          simp only [finalTurn, hdecode, hresult, hflush, bind, Except.bind, pure, Except.pure]
        have hends := hlaw.ends husable hw.no_errors hresult
        rw [hturn]
        refine .stop _ ?_
        show s''.output = text
        rw [houtput, ← hends, ← String.append_assoc]
        exact htext
    | outputFull =>
        have hturn : finalTurn s = .ok (.again s'') := by
          simp only [finalTurn, hdecode, hresult, hflush, bind, Except.bind, pure, Except.pure]
        obtain ⟨hnext, hflushes⟩ := hlaw.flushes husable hw.no_errors hresult
        rw [← hw.decoder] at hnext hflushes
        have hdecreases := hw.decreases hlaw husable hresult hflushes
        rw [List.drop_nil] at hflushes hdecreases
        rw [hturn]
        refine .again _ ⟨hdecoder ▸ hnext, "", hholds', ?_⟩ ?_
        · rw [houtput, hdecoder, String.append_empty, ← htext, hflushes]
          simp only [String.append_assoc]
        · unfold finalMeasure
          simpa only [hdecoder, hempty, Nat.zero_min, Nat.add_zero, List.length_nil, Nat.zero_add] using hdecreases

/-! ## Results do not depend on the number of turns -/

theorem readChunks_settles (chunks : List (List UInt8)) (s : FetchState) :
    Settles fun turns => readChunks turns chunks s := by
  induction chunks generalizing s with
  | nil => exact settles_now _
  | cons chunk chunks ih =>
      by_cases hshort : s.output.utf8ByteSize + chunk.length < maxLen
      · simp only [readChunks, if_pos hshort]
        exact (loop_settles _ _).andThen ih
      · simp only [readChunks, if_neg hshort]
        exact settles_now _

theorem readEnd_settles (response : Response) (s : FetchState) :
    Settles fun turns => readEnd turns response s := by
  unfold readEnd
  cases response.failure with
  | some e => exact settles_now _
  | none => exact loop_settles _ _

theorem read_settles (response : Response) : Settles response.read :=
  (readChunks_settles response.chunks _).andThen fun s => (readEnd_settles response s).andThen fun _ => settles_now _

/-! ## A response -/

/-- The end of the body: the failure of the response, errors of the decoder, or the text. -/
theorem readEnd_ends (hlaw : Charsets.decodeToStr.Lawful m bufferSize) (response : Response)
    (h : s.Stands m whole []) :
    Ends (fun turns => readEnd turns response s)
      (OkOr (fun e => Misread e ∨ ∃ error, response.failure = some error ∧ e = .response error)
        fun s' : FetchState => s'.output = whole []) := by
  unfold readEnd
  cases hfailure : response.failure with
  | some e => exact ends_now (.inr ⟨e, rfl, rfl⟩)
  | none =>
      obtain ⟨husable, held, hholds, htext⟩ := h
      obtain ⟨r, hr, hends⟩ := loop_ends (finalTurn_onItsWay hlaw (whole [])) ⟨husable, held, hholds, htext []⟩
      refine ⟨r, ?_, hends⟩
      cases r with
      | ok s' => exact hr
      | error e => exact .inl hr

/-- Reading a response ends with the text of the whole body, or fails for a reason. -/
theorem read_ends (hlaw : Charsets.decodeToStr.Lawful m bufferSize) (response : Response)
    (husable : m.usable response.decoder) :
    Ends response.read
      (OkOr (fun e => e = .tooLong ∨ Misread e ∨ ∃ error, response.failure = some error ∧ e = .response error)
        (· = m.text response.decoder response.chunks.flatten)) := by
  have hinit : (FetchState.init response.decoder).Stands m
      (fun more => m.text response.decoder (response.chunks.flatten ++ more)) response.chunks.flatten :=
    ⟨husable, "", holds_init _, fun _ => String.empty_append⟩
  refine Ends.andThen (readChunks_ends hlaw hinit) ?_ fun s hs => ?_
  · rintro e (hlong | hmisread)
    · exact .inl hlong
    · exact .inr (.inl hmisread)
  · refine Ends.andThen (readEnd_ends hlaw response hs) (fun e he => .inr he) fun s' hs' => ?_
    have hoverall : s'.output = m.text response.decoder (response.chunks.flatten ++ []) := hs'
    rw [List.append_nil] at hoverall
    exact ends_now hoverall

variable {response : Response} {output : String} {turns : Nat}

theorem read_of_fetchMudFrom (h : fetchMudFrom turns (.ok response) = some (.ok output)) :
    response.read turns = some (.ok output) := by
  have hresult : (response.read turns).map (fun r => r.mapError FetchFailure.toError) = some (.ok output) := h
  cases hread : response.read turns with
  | none =>
      rw [hread] at hresult
      cases hresult
  | some result =>
      rw [hread] at hresult
      cases result with
      | error e => cases hresult
      | ok text =>
          cases hresult
          rfl

theorem fetchMudFrom_of_read (h : response.read turns = some (.ok output)) :
    fetchMudFrom turns (.ok response) = some (.ok output) := by
  show (response.read turns).map (fun r => r.mapError FetchFailure.toError) = some (.ok output)
  rw [h]
  rfl

/-- What `fetch_mud` returns is the text of the whole body of a response. -/
theorem text_of_fetchMudFrom (hlaw : Charsets.decodeToStr.Lawful m bufferSize)
    (husable : ∀ encoding, m.usable (Charsets.newDecoder encoding)) {sent : Except Error Response}
    (h : fetchMudFrom turns sent = some (.ok output)) :
    ∃ response, sent = .ok response ∧ output = m.text response.decoder response.chunks.flatten := by
  cases sent with
  | error e => cases h
  | ok response =>
      have hread := read_of_fetchMudFrom h
      exact ⟨response, rfl, (read_ends hlaw response (husable _)).result (read_settles response) hread⟩

end

/-! ## A charset -/

namespace Reference

/-- The characters of `windows-1252` at 0x80 to 0x9F; the other bytes are their own code points. -/
def windows1252Block : List Nat :=
  [0x20AC, 0x81, 0x201A, 0x192, 0x201E, 0x2026, 0x2020, 0x2021, 0x2C6, 0x2030, 0x160, 0x2039, 0x152, 0x8D, 0x17D,
    0x8F, 0x90, 0x2018, 0x2019, 0x201C, 0x201D, 0x2022, 0x2013, 0x2014, 0x2DC, 0x2122, 0x161, 0x203A, 0x153, 0x9D,
    0x17E, 0x178]

def windows1252 (b : UInt8) : Char :=
  if 0x80 ≤ b ∧ b ≤ 0x9F then Char.ofNat (windows1252Block.getD (b.toNat - 0x80) 0) else Char.ofNat b.toNat

/-- The crates as far as they are concerned with `windows-1252`. A body of another charset is read as if it were in
    this one, which is right for ASCII. -/
@[reducible] def charsets : Charsets where
  toStr value :=
    if value.all (fun b => 0x20 ≤ b && b ≤ 0x7E) then some (String.ofList (value.map windows1252)) else none
  Mime := List Char
  parseMime text := some text.toList
  getParam mime name := (mime.tails.find? ((name ++ "=").toList.isPrefixOf ·)).map fun param =>
    String.ofList (param.drop (name.length + 1))
  Encoding := Unit
  forLabel _ := some ()
  utf8 := ()
  Decoder := Unit
  newDecoder _ := ()
  decodeToStr := singleByte windows1252

theorem utf8Size_windows1252 (b : UInt8) : (windows1252 b).utf8Size ≤ 3 := by
  have hbytes : ∀ n < 256, (windows1252 (UInt8.ofNat n)).utf8Size ≤ 3 := by decide +kernel
  have hb := hbytes b.toNat b.toNat_lt
  rwa [UInt8.ofNat_toNat] at hb

theorem decodeToStr_lawful : Transducer.Lawful charsets.decodeToStr (singleByteMeaning windows1252) bufferSize :=
  singleByte_lawful utf8Size_windows1252 (by decide)

attribute [local instance] charsets

/-- The text of "10 €" in two chunks. -/
def tenEuros : Response where
  contentType := some ("application/mud+json;charset=windows-1252".toList.map fun c => UInt8.ofNat c.toNat)
  chunks := [[0x31, 0x30], [0x20, 0x80]]
  failure := none

end Reference

end MudController
