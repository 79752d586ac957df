import Fermentationsschrank.Core.ByteSearch
import Fermentationsschrank.Web.WebSession

/-!
# Raw request headers

The HTTP library keeps one value for a header that was sent twice.  Before its answers are
used, the raw request is scanned once: it has to be well formed, and no header that the
browser metadata rest on may stand in it twice.
-/

namespace Fermentationsschrank

def kBrowserMetadataHeaders : List Bytes :=
  [literal "Host", literal "Content-Type", literal "Cookie", literal "X-CSRF-Token",
    literal "X-UI-Mutation-Seq", literal "Origin", literal "Referer", literal "Sec-Fetch-Site"]

def kMaximumHttpRequestHeaderBlockBytes : ℕ := 2048
def kMaximumHttpRequestUriBytes : ℕ := 512
def kMaximumHttpRequestLineOverheadBytes : ℕ := 32

def kMaximumRawHttpRequestDataBytes : ℕ :=
  kMaximumHttpRequestHeaderBlockBytes + kMaximumHttpRequestUriBytes +
    kMaximumHttpRequestLineOverheadBytes

def isHeaderNameCharacter (byte : Byte) : Bool :=
  (0x30 ≤ byte ∧ byte ≤ 0x39) ∨ (0x41 ≤ byte ∧ byte ≤ 0x5A) ∨ (0x61 ≤ byte ∧ byte ≤ 0x7A) ∨
    byte ∈ literal "!#$%&'*+-.^_`|~"

/-- `std::tolower` in the locale of C. -/
def toLower (byte : Byte) : Byte := if 0x41 ≤ byte ∧ byte ≤ 0x5A then byte + 0x20 else byte

def asciiEqualIgnoreCase (raw : Bytes) (start length : ℕ) (expected : Bytes) : Bool :=
  length = expected.length ∧
    ((slice raw start (start + length)).zip expected).all fun (actual, wanted) =>
      toLower actual = toLower wanted

def lineBreak : Bytes := [13, 10]

def blanks : Bytes := [32, 9]

/-- A byte that no header value holds. -/
def isControlByte (byte : Byte) : Bool := (byte < 0x20 ∧ byte ≠ 9) ∨ byte = 0x7F

/-! ## The scan -/

/-- How often each metadata header has occurred, and where its value began when the line
that is scanned is one. -/
def countMetadata (raw : Bytes) (start colon lineEnd : ℕ) :
    List (Bytes × ℕ) → Option (List (Bytes × ℕ) × List ℕ)
  | [] => some ([], [])
  | (name, count) :: rest =>
      if !asciiEqualIgnoreCase raw start (colon - start) name then
        (countMetadata raw start colon lineEnd rest).map fun (counts, values) =>
          ((name, count) :: counts, values)
      else if 1 < count + 1 then none
      else
        match findFirstNotOf blanks raw (colon + 1) with
        | none => none
        | some valueStart =>
            if lineEnd ≤ valueStart then none
            else
              (countMetadata raw start colon lineEnd rest).map fun (counts, values) =>
                ((name, count + 1) :: counts, valueStart :: values)

structure HeaderScan where
  start : ℕ
  headerBytes : ℕ := 0
  occurrences : List (Bytes × ℕ) := kBrowserMetadataHeaders.map fun name => (name, 0)
  deriving DecidableEq, Repr

/-- What becomes of the scan at a line; the positions that were searched for are kept. -/
inductive HeaderProgress
  | finished (accepted : Bool)
  | line (lineEnd colon : ℕ) (values : List ℕ) (next : HeaderScan)
  deriving DecidableEq, Repr

/-- The body of the loop over the lines. -/
def scanHeaderLine (raw : Bytes) (scan : HeaderScan) : HeaderProgress :=
  match findFrom lineBreak raw scan.start with
  | none => .finished false
  | some lineEnd =>
      if lineEnd = scan.start then
        .finished (decide (scan.headerBytes ≤ kMaximumHttpRequestHeaderBlockBytes ∧
          lineEnd + 2 = raw.length))
      else
        let headerBytes := scan.headerBytes + (lineEnd - scan.start + 2)
        if kMaximumHttpRequestHeaderBlockBytes < headerBytes ∨ raw[scan.start]? = some 32 ∨
            raw[scan.start]? = some 9 then
          .finished false
        else
          match findFrom [58] raw scan.start with
          | none => .finished false
          | some colon =>
              if lineEnd ≤ colon ∨ colon = scan.start then .finished false
              else if !(slice raw scan.start colon).all isHeaderNameCharacter then .finished false
              else if (slice raw (colon + 1) lineEnd).any isControlByte then .finished false
              else
                match countMetadata raw scan.start colon lineEnd scan.occurrences with
                | none => .finished false
                | some (occurrences, values) =>
                    .line lineEnd colon values { start := lineEnd + 2, headerBytes, occurrences }

/-- The loop over the lines; nothing where the fuel is not enough. -/
def scanHeaders (raw : Bytes) : ℕ → HeaderScan → Option Bool
  | 0, scan => if scan.start < raw.length then none else some false
  | fuel + 1, scan =>
      if scan.start < raw.length then
        match scanHeaderLine raw scan with
        | .finished accepted => some accepted
        | .line _ _ _ next => scanHeaders raw fuel next
      else some false

def validateUniqueHttpRequestMetadataHeaders (normalizedRequestData : Bytes) : Option Bool :=
  if normalizedRequestData.length < 4 ∨
      kMaximumRawHttpRequestDataBytes < normalizedRequestData.length then
    some false
  else
    match findFrom lineBreak normalizedRequestData 0 with
    | none => some false
    | some requestLineEnd =>
        if requestLineEnd = 0 ∨
            kMaximumHttpRequestUriBytes + kMaximumHttpRequestLineOverheadBytes <
              requestLineEnd then
          some false
        else if (slice normalizedRequestData 0 requestLineEnd).any fun byte =>
            byte < 0x20 ∨ 0x7E < byte then
          some false
        else
          scanHeaders normalizedRequestData normalizedRequestData.length
            { start := requestLineEnd + 2 }

end Fermentationsschrank
