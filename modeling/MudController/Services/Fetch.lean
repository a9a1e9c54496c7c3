import MudController.Error
import MudController.Logic.Decoder
import MudController.Logic.Loop

/-!
# `Services.Fetch` — a response becomes text (`mud_service/fetch.rs`)

The part of `fetch_mud` after the request is sent: the charset is taken from the response's content type, and
the chunks of the body are decoded into a buffer of 2048 bytes, which is flushed to the output whenever a call
of the decoder finds no space in it. The `http`, `mime` and `encoding_rs` crates are parameters (`Charsets`).
How a request is built and sent is not modelled; the loops are given a number of turns.
-/

namespace MudController

open Logic

/-- The crates that read a content type and decode a body. -/
class Charsets where
  /-- `HeaderValue::to_str(..).ok()`. -/
  toStr : List UInt8 → Option String
  Mime : Type
  /-- `parse::<Mime>().ok()`. -/
  parseMime : String → Option Mime
  /-- `Mime::get_param`, as text. -/
  getParam : Mime → String → Option String
  Encoding : Type
  /-- `Encoding::for_label`. -/
  forLabel : String → Option Encoding
  /-- `encoding_rs::UTF_8`. -/
  utf8 : Encoding
  Decoder : Type
  /-- `Encoding::new_decoder`. -/
  newDecoder : Encoding → Decoder
  /-- `Decoder::decode_to_str`. -/
  decodeToStr : Transducer Decoder

/-- `MAX_LEN`. -/
def maxLen : Nat := 10000000

/-- The length of `buffer_bytes`. -/
def bufferSize : Nat := 2048

/-- A `reqwest::Response`: its content type, the chunks of its body, and the error that ends the body early. -/
structure Response where
  contentType : Option (List UInt8)
  chunks : List (List UInt8)
  failure : Option Error

/-- The ways in which reading a response fails. -/
inductive FetchFailure where
  /-- The length check. -/
  | tooLong
  /-- The decoder reports errors. -/
  | decodingError
  /-- `response.chunk()` fails. -/
  | response (e : Error)
  /-- A slice out of bounds or inside of a character: a panic. -/
  | outOfBounds

/-- The error of the call: `MudFileInvalid` for both checks. -/
def FetchFailure.toError : FetchFailure → Error
  | .tooLong => .mudFileInvalid
  | .decodingError => .mudFileInvalid
  | .response e => e
  | .outOfBounds => .panicked

variable [Charsets]

/-- The `charset` of the content type, else `utf-8`. -/
def Response.encodingName (response : Response) : String :=
  let contentType := (response.contentType.bind Charsets.toStr).bind Charsets.parseMime
  (contentType.bind fun mime => Charsets.getParam mime "charset").getD "utf-8"

/-- The decoder of the response. -/
def Response.decoder (response : Response) : Charsets.Decoder :=
  Charsets.newDecoder ((Charsets.forLabel response.encodingName).getD Charsets.utf8)

/-- The variables of `fetch_mud` that its loops change. -/
structure FetchState where
  decoder : Charsets.Decoder
  output : String
  buffer : String
  bytesInBuffer : Nat

/-- Before the first chunk. -/
def FetchState.init (decoder : Charsets.Decoder) : FetchState where
  decoder := decoder
  output := ""
  buffer := String.ofList (List.replicate bufferSize '\x00')
  bytesInBuffer := 0

/-- `&chunk[total_read_from_current_input..]`. -/
def bytesFrom (chunk : List UInt8) (n : Nat) : Except FetchFailure (List UInt8) :=
  if n ≤ chunk.length then .ok (chunk.drop n) else .error .outOfBounds

/-- `decoder.decode_to_str(src, &mut buffer[bytes_in_buffer..], last)` and the check of `had_errors`. -/
def FetchState.decode (s : FetchState) (src : List UInt8) (last : Bool) :
    Except FetchFailure (Decoded Charsets.Decoder × FetchState) :=
  match splitAtByte s.buffer s.bytesInBuffer with
  | none => .error .outOfBounds
  | some (before, dst) =>
    let decoded := Charsets.decodeToStr s.decoder src dst last
    if decoded.hadErrors then .error .decodingError
    else .ok (decoded, { s with
      decoder := decoded.next
      buffer := before ++ (decoded.text ++ decoded.rest)
      bytesInBuffer := s.bytesInBuffer + decoded.text.utf8ByteSize })

/-- `output.push_str(&buffer[..bytes_in_buffer])`, after which the buffer counts as empty. -/
def FetchState.flush (s : FetchState) : Except FetchFailure FetchState :=
  match splitAtByte s.buffer s.bytesInBuffer with
  | none => .error .outOfBounds
  | some (held, _) => .ok { s with output := s.output ++ held, bytesInBuffer := 0 }

/-- A turn of the loop over one chunk, of which `total_read_from_current_input` bytes are read. -/
def chunkTurn (chunk : List UInt8) : FetchState × Nat → Except FetchFailure (Turn (FetchState × Nat) FetchState)
  | (s, totalRead) => do
    let src ← bytesFrom chunk totalRead
    let (decoded, s') ← s.decode src false
    match decoded.result with
    | .inputEmpty => return .stop s'
    | .outputFull => return .again (← s'.flush, totalRead + decoded.read)

/-- A turn of the loop after the last chunk. -/
def finalTurn (s : FetchState) : Except FetchFailure (Turn FetchState FetchState) := do
  let (decoded, s') ← s.decode [] true
  let flushed ← s'.flush
  match decoded.result with
  | .inputEmpty => return .stop flushed
  | .outputFull => return .again flushed

/-- `while let Some(chunk) = response.chunk().await?`. -/
def readChunks (turns : Nat) : List (List UInt8) → FetchState → Option (Except FetchFailure FetchState)
  | [], s => some (.ok s)
  | chunk :: chunks, s =>
    -- what is decoded, and the bytes that are not: neither the buffer nor what the bytes decode to
    if s.output.utf8ByteSize + chunk.length < maxLen then
      andThen (loop (chunkTurn chunk) turns (s, 0)) (readChunks turns chunks)
    else some (.error .tooLong)

/-- The end of the body, and the loop after it. -/
def readEnd (turns : Nat) (response : Response) (s : FetchState) : Option (Except FetchFailure FetchState) :=
  match response.failure with
  | some e => some (.error (.response e))
  | none => loop finalTurn turns s

/-- The text of a response. -/
def Response.read (turns : Nat) (response : Response) : Option (Except FetchFailure String) :=
  andThen (readChunks turns response.chunks (.init response.decoder)) fun s =>
  andThen (readEnd turns response s) fun s' => some (.ok s'.output)

/-- `fetch_mud`, with what sending the request yields. -/
def fetchMudFrom (turns : Nat) (sent : Except Error Response) : Option (Except Error String) :=
  match sent with
  | .error e => some (.error e)
  | .ok response => (response.read turns).map fun r => r.mapError FetchFailure.toError

end MudController
