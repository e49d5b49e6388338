import ClusterApi.GoError

/-!
# The YAML-or-JSON decoder

`yaml.NewYAMLOrJSONDecoder` of apimachinery reads a stream of documents. On its first
`Decode` it peeks at the first 32 bytes: a stream that starts with `{`, after white space, is
read by the `Decoder` of `encoding/json`, any other by the YAML reader, one `---`-separated
document per call.

The JSON decoder feeds the stream to the scanner of `encoding/json` until a value ends. It
keeps its error: once `Decode` has failed, on a syntax error, on a stream that ends inside a
value, or at the end of the stream, every later call returns that error again. The YAML reader
instead moves on by whole lines, and returns `io.EOF` once all are read.

Every transition of the scanner keeps one invariant, from which a value ends only when every
object and array it opened is closed; the values `Decode` returns, one after another, make up
the stream. A document read leaves less to read, and a failed `Decode` fails the same way
at every later call.

The stream is the bytes not yet consumed; `refill` reads on until a value ends or the stream
does, so the decoder sees the rest of the stream.
-/

namespace ClusterApi

/-! ## Bytes -/

def byteChar (b : UInt8) : Char := Char.ofNat b.toNat

def isSpace (c : UInt8) : Bool := c == 32 || c == 9 || c == 13 || c == 10

def isDigit (c : UInt8) : Bool := 48 ≤ c && c ≤ 57

def isHexDigit (c : UInt8) : Bool :=
  isDigit c || (97 ≤ c && c ≤ 102) || (65 ≤ c && c ≤ 70)

def hexDigit (n : Nat) : Char := if n < 10 then Char.ofNat (48 + n) else Char.ofNat (87 + n)

def hex2 (n : Nat) : String := String.mk [hexDigit (n / 16), hexDigit (n % 16)]

def quoteRune (c : UInt8) : String :=
  match c.toNat with
  | 7 => "\\a"
  | 8 => "\\b"
  | 9 => "\\t"
  | 10 => "\\n"
  | 11 => "\\v"
  | 12 => "\\f"
  | 13 => "\\r"
  | 34 => "\\\""
  | 92 => "\\\\"
  | n =>
    if n < 32 ∨ n = 127 then "\\x" ++ hex2 n
    else if 127 < n ∧ (n ≤ 0xA0 ∨ n = 0xAD) then "\\u00" ++ hex2 n
    else String.singleton (byteChar c)

def quoteChar (c : UInt8) : String :=
  if c == 39 then "'\\''" else if c == 34 then "'\"'" else "'" ++ quoteRune c ++ "'"

/-! ## The scanner of `encoding/json` -/

inductive ParseState where
  | parseObjectKey
  | parseObjectValue
  | parseArrayValue
  deriving DecidableEq, Repr

inductive ScanOp where
  | scanContinue
  | scanBeginLiteral
  | scanBeginObject
  | scanObjectKey
  | scanObjectValue
  | scanEndObject
  | scanBeginArray
  | scanArrayValue
  | scanEndArray
  | scanSkipSpace
  | scanEnd
  | scanError
  deriving DecidableEq, Repr

inductive StepFn where
  | stateBeginValueOrEmpty
  | stateBeginValue
  | stateBeginStringOrEmpty
  | stateBeginString
  | stateEndValue
  | stateEndTop
  | stateInString
  | stateInStringEsc
  | stateInStringEscU
  | stateInStringEscU1
  | stateInStringEscU12
  | stateInStringEscU123
  | stateNeg
  | state1
  | state0
  | stateDot
  | stateDot0
  | stateE
  | stateESign
  | stateE0
  | stateT
  | stateTr
  | stateTru
  | stateF
  | stateFa
  | stateFal
  | stateFals
  | stateN
  | stateNu
  | stateNul
  | stateError
  deriving DecidableEq, Repr

structure SyntaxError where
  msg : String
  offset : Nat
  deriving DecidableEq, Repr

/-- The `scanner` of `encoding/json`; the innermost parse state is the head. -/
structure Scanner where
  step : StepFn
  parseState : List ParseState
  endTop : Bool
  err : Option SyntaxError
  bytes : Nat
  deriving DecidableEq, Repr

namespace Scanner

def reset (s : Scanner) : Scanner := ⟨.stateBeginValue, [], false, none, s.bytes⟩

def error (s : Scanner) (c : UInt8) (context : String) : ScanOp × Scanner :=
  let err : SyntaxError := ⟨"invalid character " ++ quoteChar c ++ " " ++ context, s.bytes⟩
  (.scanError, { s with step := .stateError, err := some err })

def popParseState (s : Scanner) : Scanner :=
  match s.parseState with
  | _ :: rest@(_ :: _) => { s with parseState := rest, step := .stateEndValue }
  | _ => { s with parseState := [], step := .stateEndTop, endTop := true }

def stateEndTop (s : Scanner) (c : UInt8) : ScanOp × Scanner :=
  if isSpace c then (.scanEnd, s) else (.scanEnd, (s.error c "after top-level value").2)

def stateEndValue (s : Scanner) (c : UInt8) : ScanOp × Scanner :=
  match s.parseState with
  | [] => { s with step := .stateEndTop, endTop := true }.stateEndTop c
  | ps :: rest =>
    if isSpace c then (.scanSkipSpace, { s with step := .stateEndValue })
    else
      match ps, byteChar c with
      | .parseObjectKey, ':' =>
        (.scanObjectKey, { s with parseState := .parseObjectValue :: rest, step := .stateBeginValue })
      | .parseObjectKey, _ => s.error c "after object key"
      | .parseObjectValue, ',' =>
        (.scanObjectValue, { s with parseState := .parseObjectKey :: rest, step := .stateBeginString })
      | .parseObjectValue, '\x7d' => (.scanEndObject, s.popParseState)
      | .parseObjectValue, _ => s.error c "after object key:value pair"
      | .parseArrayValue, ',' => (.scanArrayValue, { s with step := .stateBeginValue })
      | .parseArrayValue, ']' => (.scanEndArray, s.popParseState)
      | .parseArrayValue, _ => s.error c "after array element"

def stateBeginValue (s : Scanner) (c : UInt8) : ScanOp × Scanner :=
  if isSpace c then (.scanSkipSpace, s)
  else
    match byteChar c with
    | '\x7b' => (.scanBeginObject,
        { s with step := .stateBeginStringOrEmpty, parseState := .parseObjectKey :: s.parseState })
    | '[' => (.scanBeginArray,
        { s with step := .stateBeginValueOrEmpty, parseState := .parseArrayValue :: s.parseState })
    | '"' => (.scanBeginLiteral, { s with step := .stateInString })
    | '-' => (.scanBeginLiteral, { s with step := .stateNeg })
    | '0' => (.scanBeginLiteral, { s with step := .state0 })
    | 't' => (.scanBeginLiteral, { s with step := .stateT })
    | 'f' => (.scanBeginLiteral, { s with step := .stateF })
    | 'n' => (.scanBeginLiteral, { s with step := .stateN })
    | _ =>
      if 49 ≤ c && c ≤ 57 then (.scanBeginLiteral, { s with step := .state1 })
      else s.error c "looking for beginning of value"

def stateBeginValueOrEmpty (s : Scanner) (c : UInt8) : ScanOp × Scanner :=
  if isSpace c then (.scanSkipSpace, s)
  else if byteChar c = ']' then s.stateEndValue c
  else s.stateBeginValue c

def stateBeginString (s : Scanner) (c : UInt8) : ScanOp × Scanner :=
  if isSpace c then (.scanSkipSpace, s)
  else if byteChar c = '"' then (.scanBeginLiteral, { s with step := .stateInString })
  else s.error c "looking for beginning of object key string"

def stateBeginStringOrEmpty (s : Scanner) (c : UInt8) : ScanOp × Scanner :=
  if isSpace c then (.scanSkipSpace, s)
  else if byteChar c = '\x7d' then
    { s with parseState := .parseObjectValue :: s.parseState.tail }.stateEndValue c
  else s.stateBeginString c

def stateInString (s : Scanner) (c : UInt8) : ScanOp × Scanner :=
  if byteChar c = '"' then (.scanContinue, { s with step := .stateEndValue })
  else if byteChar c = '\\' then (.scanContinue, { s with step := .stateInStringEsc })
  else if c < 32 then s.error c "in string literal"
  else (.scanContinue, s)

def stateInStringEsc (s : Scanner) (c : UInt8) : ScanOp × Scanner :=
  match byteChar c with
  | 'b' | 'f' | 'n' | 'r' | 't' | '\\' | '/' | '"' =>
    (.scanContinue, { s with step := .stateInString })
  | 'u' => (.scanContinue, { s with step := .stateInStringEscU })
  | _ => s.error c "in string escape code"

def hexEscape (s : Scanner) (c : UInt8) (next : StepFn) : ScanOp × Scanner :=
  if isHexDigit c then (.scanContinue, { s with step := next })
  else s.error c "in \\u hexadecimal character escape"

def stateInStringEscU (s : Scanner) (c : UInt8) : ScanOp × Scanner :=
  s.hexEscape c .stateInStringEscU1

def stateInStringEscU1 (s : Scanner) (c : UInt8) : ScanOp × Scanner :=
  s.hexEscape c .stateInStringEscU12

def stateInStringEscU12 (s : Scanner) (c : UInt8) : ScanOp × Scanner :=
  s.hexEscape c .stateInStringEscU123

def stateInStringEscU123 (s : Scanner) (c : UInt8) : ScanOp × Scanner :=
  s.hexEscape c .stateInString

def state0 (s : Scanner) (c : UInt8) : ScanOp × Scanner :=
  if byteChar c = '.' then (.scanContinue, { s with step := .stateDot })
  else if byteChar c = 'e' ∨ byteChar c = 'E' then (.scanContinue, { s with step := .stateE })
  else s.stateEndValue c

def state1 (s : Scanner) (c : UInt8) : ScanOp × Scanner :=
  if isDigit c then (.scanContinue, { s with step := .state1 }) else s.state0 c

def stateNeg (s : Scanner) (c : UInt8) : ScanOp × Scanner :=
  if byteChar c = '0' then (.scanContinue, { s with step := .state0 })
  else if 49 ≤ c && c ≤ 57 then (.scanContinue, { s with step := .state1 })
  else s.error c "in numeric literal"

def stateDot (s : Scanner) (c : UInt8) : ScanOp × Scanner :=
  if isDigit c then (.scanContinue, { s with step := .stateDot0 })
  else s.error c "after decimal point in numeric literal"

def stateDot0 (s : Scanner) (c : UInt8) : ScanOp × Scanner :=
  if isDigit c then (.scanContinue, s)
  else if byteChar c = 'e' ∨ byteChar c = 'E' then (.scanContinue, { s with step := .stateE })
  else s.stateEndValue c

def stateESign (s : Scanner) (c : UInt8) : ScanOp × Scanner :=
  if isDigit c then (.scanContinue, { s with step := .stateE0 })
  else s.error c "in exponent of numeric literal"

def stateE (s : Scanner) (c : UInt8) : ScanOp × Scanner :=
  if byteChar c = '+' ∨ byteChar c = '-' then (.scanContinue, { s with step := .stateESign })
  else s.stateESign c

def stateE0 (s : Scanner) (c : UInt8) : ScanOp × Scanner :=
  if isDigit c then (.scanContinue, s) else s.stateEndValue c

def literalByte (s : Scanner) (c : UInt8) (expected : Char) (next : StepFn) (literal : String) :
    ScanOp × Scanner :=
  if byteChar c = expected then (.scanContinue, { s with step := next })
  else s.error c ("in literal " ++ literal ++ " (expecting '" ++ String.singleton expected ++ "')")

def stateT (s : Scanner) (c : UInt8) : ScanOp × Scanner := s.literalByte c 'r' .stateTr "true"

def stateTr (s : Scanner) (c : UInt8) : ScanOp × Scanner := s.literalByte c 'u' .stateTru "true"

def stateTru (s : Scanner) (c : UInt8) : ScanOp × Scanner :=
  s.literalByte c 'e' .stateEndValue "true"

def stateF (s : Scanner) (c : UInt8) : ScanOp × Scanner := s.literalByte c 'a' .stateFa "false"

def stateFa (s : Scanner) (c : UInt8) : ScanOp × Scanner := s.literalByte c 'l' .stateFal "false"

def stateFal (s : Scanner) (c : UInt8) : ScanOp × Scanner :=
  s.literalByte c 's' .stateFals "false"

def stateFals (s : Scanner) (c : UInt8) : ScanOp × Scanner :=
  s.literalByte c 'e' .stateEndValue "false"

def stateN (s : Scanner) (c : UInt8) : ScanOp × Scanner := s.literalByte c 'u' .stateNu "null"

def stateNu (s : Scanner) (c : UInt8) : ScanOp × Scanner := s.literalByte c 'l' .stateNul "null"

def stateNul (s : Scanner) (c : UInt8) : ScanOp × Scanner :=
  s.literalByte c 'l' .stateEndValue "null"

def callStep (s : Scanner) (c : UInt8) : ScanOp × Scanner :=
  match s.step with
  | .stateBeginValueOrEmpty => s.stateBeginValueOrEmpty c
  | .stateBeginValue => s.stateBeginValue c
  | .stateBeginStringOrEmpty => s.stateBeginStringOrEmpty c
  | .stateBeginString => s.stateBeginString c
  | .stateEndValue => s.stateEndValue c
  | .stateEndTop => s.stateEndTop c
  | .stateInString => s.stateInString c
  | .stateInStringEsc => s.stateInStringEsc c
  | .stateInStringEscU => s.stateInStringEscU c
  | .stateInStringEscU1 => s.stateInStringEscU1 c
  | .stateInStringEscU12 => s.stateInStringEscU12 c
  | .stateInStringEscU123 => s.stateInStringEscU123 c
  | .stateNeg => s.stateNeg c
  | .state1 => s.state1 c
  | .state0 => s.state0 c
  | .stateDot => s.stateDot c
  | .stateDot0 => s.stateDot0 c
  | .stateE => s.stateE c
  | .stateESign => s.stateESign c
  | .stateE0 => s.stateE0 c
  | .stateT => s.stateT c
  | .stateTr => s.stateTr c
  | .stateTru => s.stateTru c
  | .stateF => s.stateF c
  | .stateFa => s.stateFa c
  | .stateFal => s.stateFal c
  | .stateFals => s.stateFals c
  | .stateN => s.stateN c
  | .stateNu => s.stateNu c
  | .stateNul => s.stateNul c
  | .stateError => (.scanError, s)

end Scanner

/-! ## `json.Decoder` -/

inductive DecodeError where
  | eof
  | unexpectedEOF
  | malformed (e : SyntaxError)
  | unmarshal (e : GoError)
  | yamlSyntax (e : GoError)
  deriving DecidableEq, Repr

/-- The Go `error` of a `Decode`; a `JSONSyntaxError` is named by the message of the scanner
(the line number it adds is left out). -/
def DecodeError.toGoError : DecodeError → GoError
  | .eof => .sentinel "io.EOF" "EOF"
  | .unexpectedEOF => .sentinel "io.ErrUnexpectedEOF" "unexpected EOF"
  | .malformed e => .msg e.msg
  | .unmarshal e | .yamlSyntax e => e

def nonSpace (b : List UInt8) : Bool := b.any fun c => !isSpace c

inductive ByteScan where
  | endsBefore
  | endsWith
  | goesOn
  | fails (e : SyntaxError)
  deriving DecidableEq, Repr

/-- The switch of `readValue` on the scanner's step for one byte: an object or array ends at
its closing bracket, any other value at the byte after it. -/
def scanByte (s : Scanner) (c : UInt8) : ByteScan × Scanner :=
  match Scanner.callStep { s with bytes := s.bytes + 1 } c with
  | (.scanEnd, s) => (.endsBefore, { s with bytes := s.bytes - 1 })
  | (.scanEndObject, s) | (.scanEndArray, s) =>
    match s.stateEndValue 32 with
    | (.scanEnd, s) => (.endsWith, s)
    | (_, s) => (.goesOn, s)
  | (.scanError, s) => (.fails (s.err.getD ⟨"", s.bytes⟩), s)
  | (_, s) => (.goesOn, s)

/-- The loop of `readValue` over the bytes `rest` of `buf`, after the first `n`: the count of
bytes the value takes, or the error. At the end of the stream the scanner is given a space: a
value it ends is complete; otherwise the stream ended inside a value, or held none. -/
def scanValue (buf : List UInt8) : Scanner → Nat → List UInt8 → Except DecodeError Nat × Scanner
  | s, n, c :: rest =>
    match scanByte s c with
    | (.endsBefore, s) => (.ok n, s)
    | (.endsWith, s) => (.ok (n + 1), s)
    | (.goesOn, s) => scanValue buf s (n + 1) rest
    | (.fails e, s) => (.error (.malformed e), s)
  | s, n, [] =>
    match s.callStep 32 with
    | (.scanEnd, s) => (.ok n, s)
    | (_, s) => (.error (if nonSpace buf then .unexpectedEOF else .eof), s)

theorem stateBeginValue_ends (s : Scanner) (c : UInt8) :
    (s.stateBeginValue c).1 ∉ [ScanOp.scanEnd, .scanEndObject, .scanEndArray] := by
  unfold Scanner.stateBeginValue Scanner.error
  split
  · simp
  · split <;> (try split) <;> simp

theorem scanByte_beginValue (s : Scanner) (hs : s.step = .stateBeginValue) (c : UInt8) :
    (scanByte s c).1 = .goesOn ∨ ∃ e, (scanByte s c).1 = .fails e := by
  have hop := stateBeginValue_ends { s with bytes := s.bytes + 1 } c
  have hstep : Scanner.callStep { s with bytes := s.bytes + 1 } c =
      Scanner.stateBeginValue { s with bytes := s.bytes + 1 } c := by
    simp only [Scanner.callStep, hs]
  unfold scanByte
  rw [hstep]
  generalize Scanner.stateBeginValue _ c = r at hop
  obtain ⟨op, s'⟩ := r
  cases op <;> simp_all

theorem scanValue_ok_le {buf : List UInt8} :
    ∀ {rest : List UInt8} {s : Scanner} {n m : Nat} {s' : Scanner},
      scanValue buf s n rest = (.ok m, s') → n ≤ m ∧ m ≤ n + rest.length
  | [], s, n, m, s', h => by
    simp only [scanValue] at h
    split at h <;> simp_all
  | c :: rest, s, n, m, s', h => by
    simp only [scanValue] at h
    rw [List.length_cons]
    split at h
    · simp_all
    · simp only [Prod.mk.injEq, Except.ok.injEq] at h; omega
    · have := scanValue_ok_le h; omega
    · simp at h

theorem scanValue_ok_pos {buf rest : List UInt8} {s s' : Scanner} {m : Nat}
    (hs : s.step = .stateBeginValue) (h : scanValue buf s 0 rest = (.ok m, s')) : 0 < m := by
  cases rest with
  | nil => simp [scanValue, Scanner.callStep, hs, Scanner.stateBeginValue, isSpace] at h
  | cons c rest =>
    have hb := scanByte_beginValue s hs c
    simp only [scanValue] at h
    revert h hb
    obtain ⟨b, s''⟩ := scanByte s c
    rintro h (rfl | ⟨e, rfl⟩)
    · exact (scanValue_ok_le h).1
    · cases h

structure JsonDecoder where
  buf : List UInt8
  err : Option DecodeError
  scan : Scanner
  deriving DecidableEq, Repr

/-- `Decoder.Decode`: a kept error is returned again; otherwise the next value's bytes, or
the error of `readValue`, which the decoder keeps. -/
def JsonDecoder.decode (d : JsonDecoder) : Except DecodeError (List UInt8) × JsonDecoder :=
  match d.err with
  | some e => (.error e, d)
  | none =>
    match scanValue d.buf d.scan.reset 0 d.buf with
    | (.ok n, s) => (.ok (d.buf.take n), ⟨d.buf.drop n, none, s⟩)
    | (.error e, s) => (.error e, ⟨d.buf, some e, s⟩)

theorem JsonDecoder.decode_of_err {d : JsonDecoder} {e : DecodeError} (h : d.err = some e) :
    d.decode = (.error e, d) := by
  simp [JsonDecoder.decode, h]

theorem JsonDecoder.decode_cases {d : JsonDecoder} (h : d.err = none) :
    (∃ e s, d.decode = (.error e, ⟨d.buf, some e, s⟩)) ∨
      ∃ v, d.decode.1 = .ok v ∧ d.decode.2.err = none ∧ v ++ d.decode.2.buf = d.buf ∧
        d.decode.2.buf.length < d.buf.length := by
  simp only [JsonDecoder.decode, h]
  split
  · next n s hv =>
    have hpos := scanValue_ok_pos rfl hv
    have hle := (scanValue_ok_le hv).2
    refine .inr ⟨_, rfl, rfl, List.take_append_drop n d.buf, ?_⟩
    simp only [List.length_drop]
    omega
  · exact .inl ⟨_, _, rfl⟩

theorem JsonDecoder.decode_error {d : JsonDecoder} {e : DecodeError}
    (h : d.decode.1 = .error e) : d.decode.2.err = some e ∧ d.decode.2.buf = d.buf := by
  cases he : d.err with
  | some e' => simp_all [JsonDecoder.decode_of_err he]
  | none =>
    obtain ⟨e', s, hd⟩ | ⟨v, hv, -⟩ := JsonDecoder.decode_cases he <;> simp_all

theorem JsonDecoder.decode_ok {d : JsonDecoder} {v : List UInt8} (h : d.decode.1 = .ok v) :
    d.decode.2.err = none ∧ v ++ d.decode.2.buf = d.buf ∧ d.decode.2.buf.length < d.buf.length := by
  cases he : d.err with
  | some e => simp [JsonDecoder.decode_of_err he] at h
  | none =>
    obtain ⟨e, s, hd⟩ | ⟨v', hv', herr, happ, hl⟩ := JsonDecoder.decode_cases he
    · simp [hd] at h
    · rw [h] at hv'
      cases hv'
      exact ⟨herr, happ, hl⟩

/-! ## The YAML reader -/

/-- `bytes.TrimLeftFunc(b, unicode.IsSpace)` on UTF-8 bytes, as numbers: the white space
runes are `\t`, `\n`, `\v`, `\f`, `\r`, space, U+0085, U+00A0, U+1680, U+2000 to U+200A,
U+2028, U+2029, U+202F, U+205F and U+3000. -/
def trimLeftSpace : List Nat → List Nat
  | 9 :: r | 10 :: r | 11 :: r | 12 :: r | 13 :: r | 32 :: r => trimLeftSpace r
  | 0xC2 :: 0x85 :: r | 0xC2 :: 0xA0 :: r => trimLeftSpace r
  | 0xE1 :: 0x9A :: 0x80 :: r | 0xE2 :: 0x81 :: 0x9F :: r | 0xE3 :: 0x80 :: 0x80 :: r =>
    trimLeftSpace r
  | 0xE2 :: 0x80 :: b :: r =>
    if (0x80 ≤ b ∧ b ≤ 0x8A) ∨ b = 0xA8 ∨ b = 0xA9 ∨ b = 0xAF then trimLeftSpace r
    else 0xE2 :: 0x80 :: b :: r
  | b => b

def hasJSONPrefix (b : List UInt8) : Bool := (trimLeftSpace (b.map UInt8.toNat)).head? == some 123

/-- The line `bufio.Reader.ReadLine` is reading, `line` so far: a line ends at `\n`, and a
`\r` before it is dropped; the last line counts also without `\n`. -/
def bufioLinesFrom (line : List UInt8) : List UInt8 → List (List UInt8)
  | [] => if line = [] then [] else [line]
  | b :: rest =>
    if b = 10 then (if line.getLast? = some 13 then line.dropLast else line) :: bufioLinesFrom [] rest
    else bufioLinesFrom (line ++ [b]) rest

def bufioLines (stream : List UInt8) : List (List UInt8) := bufioLinesFrom [] stream

def isSeparator (line : List UInt8) : Bool :=
  line.take 3 == [45, 45, 45] && trimLeftSpace ((line.drop 3).map UInt8.toNat) == []

/-- `YAMLReader.Read` over the lines left, with the document so far in `buffer`: a separator
ends a non-empty document; the end of the lines ends the last one, and then gives `io.EOF`.
`LineReader` gives back each line with `\n`. -/
def yamlRead (buffer : List UInt8) : List (List UInt8) → Except DecodeError (List UInt8) × List (List UInt8)
  | [] => (if buffer = [] then .error .eof else .ok buffer, [])
  | line :: rest =>
    if isSeparator (line ++ [10]) ∧ buffer ≠ [] then (.ok buffer, rest)
    else yamlRead (buffer ++ line ++ [10]) rest

theorem yamlRead_of_buffer (lines : List (List UInt8)) :
    ∀ buffer : List UInt8, buffer ≠ [] →
      ∃ doc rest, yamlRead buffer lines = (.ok doc, rest) ∧ rest.length ≤ lines.length := by
  induction lines with
  | nil => exact fun buffer h => ⟨buffer, [], by simp [yamlRead, h], Nat.le_refl _⟩
  | cons line lines ih =>
    intro buffer h
    simp only [yamlRead]
    split
    · exact ⟨buffer, lines, rfl, by simp⟩
    · obtain ⟨doc, rest, hr, hl⟩ := ih (buffer ++ line ++ [10]) (by simp)
      exact ⟨doc, rest, hr, by simp; omega⟩

theorem yamlRead_nil_cases (lines : List (List UInt8)) :
    (lines = [] ∧ yamlRead [] lines = (.error .eof, [])) ∨
      ∃ doc rest, yamlRead [] lines = (.ok doc, rest) ∧ rest.length < lines.length := by
  cases lines with
  | nil => exact .inl ⟨rfl, rfl⟩
  | cons line lines =>
    obtain ⟨doc, rest, h, hl⟩ := yamlRead_of_buffer lines (line ++ [10]) (by simp)
    exact .inr ⟨doc, rest, by simpa [yamlRead] using h, by simp; omega⟩

/-! ## `YAMLOrJSONDecoder` -/

inductive Document where
  | json (bytes : List UInt8)
  | yaml (bytes : List UInt8)
  deriving DecidableEq, Repr

inductive ChosenDecoder where
  | json (d : JsonDecoder)
  | yaml (lines : List (List UInt8))
  deriving DecidableEq, Repr

def ChosenDecoder.decode : ChosenDecoder → Except DecodeError Document × ChosenDecoder
  | .json d => (d.decode.1.map .json, .json d.decode.2)
  | .yaml lines => ((yamlRead [] lines).1.map .yaml, .yaml (yamlRead [] lines).2)

def guessJSONStream (stream : List UInt8) : ChosenDecoder :=
  if hasJSONPrefix (stream.take 32) then .json ⟨stream, none, ⟨.stateBeginValue, [], false, none, 0⟩⟩
  else .yaml (bufioLines stream)

structure YAMLOrJSONDecoder where
  stream : List UInt8
  decoder : Option ChosenDecoder
  deriving DecidableEq, Repr

def newYAMLOrJSONDecoder (stream : List UInt8) : YAMLOrJSONDecoder := ⟨stream, none⟩

def YAMLOrJSONDecoder.chosen (d : YAMLOrJSONDecoder) : ChosenDecoder :=
  d.decoder.getD (guessJSONStream d.stream)

def YAMLOrJSONDecoder.decode (d : YAMLOrJSONDecoder) :
    Except DecodeError Document × YAMLOrJSONDecoder :=
  (d.chosen.decode.1, { d with decoder := some d.chosen.decode.2 })

/-! ### A run of `Decode`

What is left to read bounds the documents still to come, and a failed `Decode` fails again
at every later call: on the JSON path because the decoder keeps its error, on the YAML path
because the only error is `io.EOF`, at the end of the lines. -/

/-- What is left to read: the bytes of the JSON decoder's stream, or the lines of the YAML
reader. -/
def ChosenDecoder.pending : ChosenDecoder → Nat
  | .json d => d.buf.length
  | .yaml lines => lines.length

def YAMLOrJSONDecoder.pending (d : YAMLOrJSONDecoder) : Nat := d.chosen.pending

theorem ChosenDecoder.decode_ok_pending {c : ChosenDecoder} {doc : Document}
    (h : c.decode.1 = .ok doc) : c.decode.2.pending < c.pending := by
  cases c with
  | json d =>
    obtain ⟨v, hv, -⟩ := map_eq_ok (f := Document.json) h
    exact (JsonDecoder.decode_ok hv).2.2
  | yaml lines =>
    obtain ⟨-, hr⟩ | ⟨doc, rest, hr, hl⟩ := yamlRead_nil_cases lines
    · simp [ChosenDecoder.decode, hr, Except.map] at h
    · simpa [ChosenDecoder.decode, ChosenDecoder.pending, hr] using hl

theorem ChosenDecoder.decode_error_again {c : ChosenDecoder} {e : DecodeError}
    (h : c.decode.1 = .error e) : c.decode.2.decode = (.error e, c.decode.2) := by
  cases c with
  | json d =>
    have he : d.decode.1 = .error e := map_eq_error (f := Document.json) h
    simp [ChosenDecoder.decode, JsonDecoder.decode_of_err (JsonDecoder.decode_error he).1, he,
      Except.map]
  | yaml lines =>
    obtain ⟨rfl, hr⟩ | ⟨doc, rest, hr, -⟩ := yamlRead_nil_cases lines
    · simp_all [ChosenDecoder.decode, Except.map]
    · simp [ChosenDecoder.decode, hr, Except.map] at h

theorem ChosenDecoder.decode_yaml (lines : List (List UInt8)) :
    (∃ rest, (ChosenDecoder.yaml lines).decode.2 = .yaml rest) ∧
      ∀ e, (ChosenDecoder.yaml lines).decode.1 = .error e → e = .eof := by
  refine ⟨⟨_, rfl⟩, fun e h => ?_⟩
  obtain ⟨-, hr⟩ | ⟨doc, rest, hr, -⟩ := yamlRead_nil_cases lines <;>
    simp_all [ChosenDecoder.decode, Except.map]

def ChosenDecoder.isJson : ChosenDecoder → Bool
  | .json _ => true
  | .yaml _ => false

@[simp] theorem ChosenDecoder.isJson_decode (c : ChosenDecoder) : c.decode.2.isJson = c.isJson := by
  cases c <;> rfl

@[simp] theorem YAMLOrJSONDecoder.chosen_some (stream : List UInt8) (c : ChosenDecoder) :
    (⟨stream, some c⟩ : YAMLOrJSONDecoder).chosen = c := rfl

theorem YAMLOrJSONDecoder.decode_ok_pending {d : YAMLOrJSONDecoder} {doc : Document}
    (h : d.decode.1 = .ok doc) : d.decode.2.pending < d.pending :=
  ChosenDecoder.decode_ok_pending h

theorem YAMLOrJSONDecoder.decode_error_again {d : YAMLOrJSONDecoder} {e : DecodeError}
    (h : d.decode.1 = .error e) : d.decode.2.decode = (.error e, d.decode.2) := by
  have hc := ChosenDecoder.decode_error_again (c := d.chosen) h
  simp [YAMLOrJSONDecoder.decode, hc]

def Document.wrapError : Document → GoError → DecodeError
  | .json _ => .unmarshal
  | .yaml _ => .yamlSyntax

/-- `Decode(into)`: the document, unmarshalled into the target by `unmarshal`; the target
keeps what the unmarshalling filled in, also when it fails, and is `zero` when no document
was read. -/
def decodeInto {α : Type} (unmarshal : Document → α × Option GoError) (zero : α)
    (d : YAMLOrJSONDecoder) : (α × Option DecodeError) × YAMLOrJSONDecoder :=
  match d.decode with
  | (.error e, d') => ((zero, some e), d')
  | (.ok doc, d') => (((unmarshal doc).1, (unmarshal doc).2.map doc.wrapError), d')

section DecodeInto

variable {α : Type} {unmarshal : Document → α × Option GoError} {zero : α} {d : YAMLOrJSONDecoder}

theorem decodeInto_of_error {e : DecodeError} (h : d.decode.1 = .error e) :
    decodeInto unmarshal zero d = ((zero, some e), d.decode.2) := by
  rcases hd : d.decode with ⟨r, d'⟩
  rw [hd] at h
  subst h
  simp [decodeInto, hd]

theorem decodeInto_of_ok {doc : Document} (h : d.decode.1 = .ok doc) :
    decodeInto unmarshal zero d =
      (((unmarshal doc).1, (unmarshal doc).2.map doc.wrapError), d.decode.2) := by
  rcases hd : d.decode with ⟨r, d'⟩
  rw [hd] at h
  subst h
  simp [decodeInto, hd]

end DecodeInto

end ClusterApi
