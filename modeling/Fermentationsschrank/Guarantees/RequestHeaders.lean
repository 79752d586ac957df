import Fermentationsschrank.Web.HttpRequestHeaders

/-!
# Headers that occur once

The scan of a raw request accepts one language: a request line, header lines and an empty
line, in which no metadata header stands twice or without a value.
-/

namespace Fermentationsschrank

/-! ## Requests -/

structure HeaderLine where
  name : Bytes
  value : Bytes
  deriving DecidableEq, Repr

namespace HeaderLine

variable (header : HeaderLine)

def bytes : Bytes := header.name ++ (58 :: (header.value ++ lineBreak))

/-- A token, and a value without control bytes other than the tab. -/
structure Valid : Prop where
  name_nonempty : header.name ≠ []
  name_token : ∀ byte ∈ header.name, isHeaderNameCharacter byte = true
  value_plain : ∀ byte ∈ header.value, isControlByte byte = false

/-- The names agree when upper and lower case are not told apart. -/
def Named (name : Bytes) : Prop := header.name.map toLower = name.map toLower

instance (name : Bytes) : Decidable (header.Named name) :=
  inferInstanceAs (Decidable (_ = _))

def NonBlank : Prop := ∃ byte ∈ header.value, byte ∉ blanks

end HeaderLine

/-- The bytes of header lines. -/
def headerBlock (headers : List HeaderLine) : Bytes := headers.flatMap HeaderLine.bytes

/-- How many of the lines have a name. -/
def occurrencesOf (name : Bytes) (headers : List HeaderLine) : ℕ :=
  headers.countP fun header => decide (header.Named name)

/-- A request whose metadata headers can be relied on. -/
def UniqueMetadataRequest (raw : Bytes) : Prop :=
  ∃ requestLine headers, raw = requestLine ++ (lineBreak ++ (headerBlock headers ++ lineBreak)) ∧
    requestLine ≠ [] ∧
    requestLine.length ≤ kMaximumHttpRequestUriBytes + kMaximumHttpRequestLineOverheadBytes ∧
    (∀ byte ∈ requestLine, 0x20 ≤ byte ∧ byte ≤ 0x7E) ∧
    (∀ header ∈ headers, header.Valid) ∧
    (headerBlock headers).length ≤ kMaximumHttpRequestHeaderBlockBytes ∧
    raw.length ≤ kMaximumRawHttpRequestDataBytes ∧
    ∀ name ∈ kBrowserMetadataHeaders, occurrencesOf name headers ≤ 1 ∧
      ∀ header ∈ headers, header.Named name → header.NonBlank

/-! ## A line in its place -/

/-- The text goes on with a header line at a position. -/
def LineAt (raw : Bytes) (start : ℕ) (header : HeaderLine) (rest : Bytes) : Prop :=
  start ≤ raw.length ∧ raw.drop start = header.bytes ++ rest

section Line

variable {raw rest : Bytes} {start : ℕ} {header : HeaderLine}

theorem LineAt.slice_name (h : LineAt raw start header rest) :
    slice raw start (start + header.name.length) = header.name := by
  rw [slice, h.2, Nat.add_sub_cancel_left, HeaderLine.bytes, List.append_assoc, List.take_left]

theorem LineAt.drop_value (h : LineAt raw start header rest) :
    raw.drop (start + header.name.length + 1) = header.value ++ (lineBreak ++ rest) := by
  rw [Nat.add_assoc, ← List.drop_drop, h.2, HeaderLine.bytes, List.append_assoc,
    ← List.drop_drop, List.drop_left, List.cons_append, List.drop_one, List.tail_cons,
    List.append_assoc]

theorem LineAt.slice_value (h : LineAt raw start header rest) :
    slice raw (start + header.name.length + 1)
      (start + header.name.length + 1 + header.value.length) = header.value := by
  rw [slice, h.drop_value, Nat.add_sub_cancel_left, List.take_left]

theorem HeaderLine.length_bytes :
    header.bytes.length = header.name.length + header.value.length + 3 := by
  rw [bytes, List.length_append, List.length_cons, List.length_append, lineBreak,
    List.length_cons, List.length_singleton]
  omega

theorem LineAt.next (h : LineAt raw start header rest) :
    start + header.bytes.length ≤ raw.length ∧ raw.drop (start + header.bytes.length) = rest := by
  have hlength := congrArg List.length h.2
  rw [List.length_append, List.length_drop] at hlength
  refine ⟨?_, by rw [← List.drop_drop, h.2, List.drop_left]⟩
  have := h.1
  omega

/-- Names agree when the comparison of the scan says so. -/
theorem map_eq_map_iff {left right : Bytes} :
    (left.length = right.length ∧
      (left.zip right).all fun (actual, wanted) => toLower actual = toLower wanted) ↔
      left.map toLower = right.map toLower := by
  induction left generalizing right with
  | nil => cases right <;> simp
  | cons first left ih =>
      cases right with
      | nil => simp
      | cons second right =>
          rw [List.map_cons, List.map_cons, List.cons.injEq, ← ih]
          simp only [List.length_cons, Nat.add_right_cancel_iff, List.zip_cons_cons, List.all_cons,
            Bool.and_eq_true, decide_eq_true_eq]
          tauto

theorem LineAt.named_iff (h : LineAt raw start header rest) {name : Bytes} :
    asciiEqualIgnoreCase raw start header.name.length name = true ↔ header.Named name := by
  rw [asciiEqualIgnoreCase, decide_eq_true_iff, h.slice_name, HeaderLine.Named, map_eq_map_iff]

/-- A value other than blanks is found before the end of its line. -/
theorem LineAt.value_found (h : LineAt raw start header rest) :
    (∃ valueStart, findFirstNotOf blanks raw (start + header.name.length + 1) = some valueStart ∧
      valueStart < start + header.name.length + 1 + header.value.length) ↔ header.NonBlank := by
  rw [findFirstNotOf, h.drop_value, List.findIdx?_append, HeaderLine.NonBlank]
  cases hfound : header.value.findIdx? fun byte => !blanks.contains byte with
  | none =>
      rw [List.findIdx?_eq_none_iff] at hfound
      constructor
      · rintro ⟨valueStart, hstart, hlt⟩
        -- the line break is the first byte that is no blank
        cases hstart
        exact absurd hlt (by simp)
      · rintro ⟨byte, hbyte, hnonblank⟩
        have hblank := hfound byte hbyte
        rw [Bool.not_eq_false', List.contains_iff_mem] at hblank
        exact absurd hblank hnonblank
  | some place =>
      obtain ⟨hlt, hbyte, _⟩ := List.findIdx?_eq_some_iff_getElem.mp hfound
      constructor
      · intro _
        refine ⟨header.value[place], List.getElem_mem hlt, fun hblank => ?_⟩
        rw [List.contains_iff_mem.mpr hblank] at hbyte
        cases hbyte
      · intro _
        exact ⟨_, rfl, Nat.add_lt_add_left hlt _⟩

/-- What a line of a name adds to its count. -/
def HeaderLine.counted (header : HeaderLine) (pair : Bytes × ℕ) : Bytes × ℕ :=
  (pair.1, pair.2 + if header.Named pair.1 then 1 else 0)

theorem LineAt.countMetadata_iff (h : LineAt raw start header rest)
    {counts next : List (Bytes × ℕ)} :
    (∃ values, countMetadata raw start (start + header.name.length)
        (start + header.name.length + 1 + header.value.length) counts = some (next, values)) ↔
      (∀ pair ∈ counts, header.Named pair.1 → pair.2 = 0 ∧ header.NonBlank) ∧
        next = counts.map header.counted := by
  induction counts generalizing next with
  | nil =>
      rw [countMetadata]
      simp [eq_comm]
  | cons pair counts ih =>
      obtain ⟨name, count⟩ := pair
      rw [countMetadata, Nat.add_sub_cancel_left, List.forall_mem_cons, List.map_cons]
      by_cases hnamed : header.Named name
      · rw [if_neg (by rw [h.named_iff.mpr hnamed]; exact Bool.false_ne_true)]
        have hcounted : header.counted (name, count) = (name, count + 1) := by
          rw [HeaderLine.counted, if_pos hnamed]
        rw [hcounted]
        constructor
        · rintro ⟨values, htaken⟩
          split at htaken
          · cases htaken
          rename_i hfirst
          split at htaken
          · cases htaken
          rename_i valueStart hstart
          split at htaken
          · cases htaken
          rename_i hbefore
          obtain ⟨⟨later, found⟩, hlater, hnext⟩ := Option.map_eq_some_iff.mp htaken
          cases hnext
          obtain ⟨hrest, rfl⟩ := ih.mp ⟨found, hlater⟩
          have hnonblank := h.value_found.mp ⟨valueStart, hstart, Nat.not_le.mp hbefore⟩
          exact ⟨⟨fun _ => ⟨by omega, hnonblank⟩, hrest⟩, rfl⟩
        · rintro ⟨⟨hfirst, hrest⟩, rfl⟩
          obtain ⟨hzero, hnonblank⟩ := hfirst hnamed
          obtain ⟨valueStart, hstart, hlt⟩ := h.value_found.mpr hnonblank
          obtain ⟨values, hlater⟩ := ih.mpr ⟨hrest, rfl⟩
          have hzero : count = 0 := hzero
          rw [if_neg (by omega), hstart]
          exact ⟨valueStart :: values, by
            simp only [if_neg (Nat.not_le.mpr hlt), hlater, Option.map_some]⟩
      · rw [if_pos (by
          rw [Bool.not_eq_true']
          exact Bool.eq_false_iff.mpr fun heq => hnamed (h.named_iff.mp heq))]
        have hcounted : header.counted (name, count) = (name, count) := by
          rw [HeaderLine.counted, if_neg hnamed, Nat.add_zero]
        rw [hcounted]
        constructor
        · rintro ⟨values, htaken⟩
          obtain ⟨⟨later, found⟩, hlater, hnext⟩ := Option.map_eq_some_iff.mp htaken
          cases hnext
          obtain ⟨hrest, rfl⟩ := ih.mp ⟨_, hlater⟩
          exact ⟨⟨fun hcontra => absurd hcontra hnamed, hrest⟩, rfl⟩
        · rintro ⟨⟨_, hrest⟩, rfl⟩
          obtain ⟨values, hlater⟩ := ih.mpr ⟨hrest, rfl⟩
          exact ⟨values, by rw [hlater, Option.map_some]⟩

/-- The places of the values lie between the colon and the end of the line. -/
theorem countMetadata_values {colon lineEnd : ℕ} {counts next : List (Bytes × ℕ)}
    {values : List ℕ} (h : countMetadata raw start colon lineEnd counts = some (next, values)) :
    ∀ value ∈ values, colon < value ∧ value < lineEnd := by
  induction counts generalizing next values with
  | nil =>
      cases h
      exact nofun
  | cons pair counts ih =>
      obtain ⟨name, count⟩ := pair
      rw [countMetadata] at h
      split at h
      · obtain ⟨⟨later, found⟩, hlater, hnext⟩ := Option.map_eq_some_iff.mp h
        cases hnext
        exact ih hlater
      split at h
      · cases h
      split at h
      · cases h
      rename_i valueStart hstart
      split at h
      · cases h
      rename_i hbefore
      obtain ⟨⟨later, found⟩, hlater, hnext⟩ := Option.map_eq_some_iff.mp h
      cases hnext
      intro value hvalue
      rcases List.mem_cons.mp hvalue with rfl | hvalue
      · obtain ⟨place, _, rfl⟩ := Option.map_eq_some_iff.mp hstart
        exact ⟨by omega, Nat.not_le.mp hbefore⟩
      · exact ih hlater value hvalue

end Line

/-! ## The scan of one line -/

section Scan

variable {raw : Bytes} {scan next : HeaderScan}

/-- The scan after a line. -/
def HeaderScan.after (scan : HeaderScan) (header : HeaderLine) : HeaderScan where
  start := scan.start + header.bytes.length
  headerBytes := scan.headerBytes + header.bytes.length
  occurrences := scan.occurrences.map header.counted

/-- A line that the scan takes. -/
structure Taken (raw : Bytes) (scan : HeaderScan) (header : HeaderLine) (rest : Bytes) :
    Prop where
  place : LineAt raw scan.start header rest
  valid : header.Valid
  fits : scan.headerBytes + header.bytes.length ≤ kMaximumHttpRequestHeaderBlockBytes
  once : ∀ pair ∈ scan.occurrences, header.Named pair.1 → pair.2 = 0 ∧ header.NonBlank

/-- A line that is taken is a header line in its place. -/
theorem taken_of_line {lineEnd colon : ℕ} {values : List ℕ}
    (hline : scanHeaderLine raw scan = .line lineEnd colon values next) :
    ∃ header rest, Taken raw scan header rest ∧ next = scan.after header ∧
      colon = scan.start + header.name.length ∧
      lineEnd = scan.start + header.name.length + 1 + header.value.length ∧
      ∀ value ∈ values, colon < value ∧ value < lineEnd := by
  rw [scanHeaderLine] at hline
  split at hline
  · cases hline
  rename_i stop hstop
  split at hline
  · cases hline
  dsimp only at hline
  split at hline
  · cases hline
  rename_i hblock
  split at hline
  · cases hline
  rename_i middle hmiddle
  split at hline
  · cases hline
  rename_i hinside
  split at hline
  · cases hline
  rename_i htoken
  split at hline
  · cases hline
  rename_i hplain
  split at hline
  · cases hline
  rename_i counted found hcounted
  cases hline
  obtain ⟨hstart, hend, rest, hrest⟩ := findFrom_eq_some hstop
  obtain ⟨hbefore, hwithin, later, hlater⟩ := findFrom_eq_some hmiddle
  rw [List.length_singleton] at hwithin
  rw [lineBreak, List.length_cons, List.length_singleton] at hend
  rw [not_or, Nat.not_le] at hinside
  have hline := slice_eq_append hinside.1 hbefore (by omega) hlater
  let header : HeaderLine := ⟨slice raw scan.start colon, slice raw (colon + 1) lineEnd⟩
  have hname : header.name.length = colon - scan.start := length_slice (by omega)
  have hvalue : header.value.length = lineEnd - (colon + 1) := length_slice (by omega)
  have hcolon : colon = scan.start + header.name.length := by omega
  have hlineEnd : lineEnd = scan.start + header.name.length + 1 + header.value.length := by omega
  have hplace : LineAt raw scan.start header rest := by
    refine ⟨by omega, ?_⟩
    rw [hrest, hline, HeaderLine.bytes, List.append_assoc, List.append_assoc, List.cons_append,
      List.cons_append, List.append_assoc]
  have hbytes : header.bytes.length = lineEnd - scan.start + 2 := by
    rw [header.length_bytes]
    omega
  have hvalues := countMetadata_values hcounted
  rw [hcolon, hlineEnd] at hcounted
  obtain ⟨honce, rfl⟩ := hplace.countMetadata_iff.mp ⟨values, hcounted⟩
  rw [not_or, Nat.not_lt] at hblock
  rw [Bool.not_eq_true', Bool.not_eq_false, List.all_eq_true] at htoken
  refine ⟨header, rest, ⟨hplace, ⟨?_, htoken, ?_⟩, ?_, honce⟩, ?_, hcolon, hlineEnd, hvalues⟩
  · rw [← List.length_pos_iff]
    omega
  · intro byte hbyte
    rw [List.any_eq_true, not_exists] at hplain
    exact Bool.eq_false_iff.mpr fun hcontrol => hplain byte ⟨hbyte, hcontrol⟩
  · rw [hbytes]
    exact hblock.1
  · rw [HeaderScan.after, hbytes]
    congr 1
    omega

theorem not_name_of_special :
    ∀ byte ∈ [13, 58, 32, 9], isHeaderNameCharacter byte = false := by decide +kernel

/-- A header line in its place is taken. -/
theorem line_of_taken {header : HeaderLine} {rest : Bytes} (h : Taken raw scan header rest) :
    ∃ lineEnd colon values, scanHeaderLine raw scan = .line lineEnd colon values
      (scan.after header) := by
  obtain ⟨hplace, hvalid, hfits, honce⟩ := h
  have hname {byte : Byte} (hbyte : byte ∈ [13, 58, 32, 9]) : byte ∉ header.name := fun hmem =>
    absurd (hvalid.name_token byte hmem) (by
      rw [not_name_of_special byte hbyte]
      exact Bool.false_ne_true)
  have hvalue : (13 : Byte) ∉ header.value := fun hmem =>
    absurd (hvalid.value_plain 13 hmem) (by decide)
  have hpos := List.length_pos_iff.mpr hvalid.name_nonempty
  have hbytes := header.length_bytes
  have hline : findFrom lineBreak raw scan.start =
      some (scan.start + header.name.length + 1 + header.value.length) := by
    have htext : raw.drop scan.start = (header.name ++ 58 :: header.value) ++ (lineBreak ++ rest) := by
      rw [hplace.2, HeaderLine.bytes, List.append_assoc, List.append_assoc, List.cons_append,
        List.cons_append, List.append_assoc]
    have hnone : (13 : Byte) ∉ header.name ++ 58 :: header.value := by
      rw [List.mem_append, List.mem_cons]
      rintro (hmem | hmem | hmem)
      · exact hname (by decide) hmem
      · exact absurd hmem (by decide)
      · exact hvalue hmem
    rw [lineBreak, findFrom_append hplace.1 htext hnone, List.length_append, List.length_cons]
    congr 1
    omega
  have hcolon : findFrom [58] raw scan.start = some (scan.start + header.name.length) := by
    have htext : raw.drop scan.start =
        header.name ++ ([58] ++ (header.value ++ (lineBreak ++ rest))) := by
      rw [hplace.2, HeaderLine.bytes, List.append_assoc, List.cons_append, List.append_assoc]
      rfl
    exact findFrom_append hplace.1 htext (hname (by decide))
  obtain ⟨first, others, hfirst⟩ := List.exists_cons_of_ne_nil hvalid.name_nonempty
  have hhead : raw[scan.start]? = some first := by
    have hdrop := congrArg (fun text : Bytes => text[0]?) hplace.2
    rwa [List.getElem?_drop, Nat.add_zero, HeaderLine.bytes, hfirst] at hdrop
  have hunfolded : ¬(raw[scan.start]? = some 32 ∨ raw[scan.start]? = some 9) := by
    rw [hhead, Option.some.injEq, Option.some.injEq]
    rintro (rfl | rfl)
    · exact hname (by decide) (hfirst ▸ List.mem_cons_self)
    · exact hname (by decide) (hfirst ▸ List.mem_cons_self)
  obtain ⟨values, hcounted⟩ := hplace.countMetadata_iff.mpr ⟨honce, rfl⟩
  refine ⟨scan.start + header.name.length + 1 + header.value.length,
    scan.start + header.name.length, values, ?_⟩
  rw [scanHeaderLine, hline]
  dsimp only
  rw [if_neg (by omega), if_neg (by
    rintro (hlong | hfolded)
    · omega
    · exact hunfolded hfolded), hcolon]
  dsimp only
  rw [if_neg (by omega), hplace.slice_name, hplace.slice_value, if_neg (by
    rw [Bool.not_eq_true', Bool.not_eq_false, List.all_eq_true]
    exact hvalid.name_token), if_neg (by
    rw [List.any_eq_true]
    rintro ⟨byte, hbyte, hcontrol⟩
    rw [hvalid.value_plain byte hbyte] at hcontrol
    cases hcontrol), hcounted]
  dsimp only
  rw [HeaderScan.after, hbytes]
  congr 2 <;> omega

/-- The scan ends with success at an empty line that ends the text. -/
theorem finished_iff (hstart : scan.start ≤ raw.length) :
    scanHeaderLine raw scan = .finished true ↔
      raw.drop scan.start = lineBreak ∧
        scan.headerBytes ≤ kMaximumHttpRequestHeaderBlockBytes := by
  constructor
  · intro h
    rw [scanHeaderLine] at h
    split at h
    · cases h
    rename_i stop hstop
    split at h
    · rename_i heq
      rw [HeaderProgress.finished.injEq, decide_eq_true_iff] at h
      refine ⟨?_, h.1⟩
      obtain ⟨_, _, rest, hrest⟩ := findFrom_eq_some hstop
      rw [heq, slice, Nat.sub_self, List.take_zero, List.nil_append] at hrest
      have hlength := congrArg List.length hrest
      rw [List.length_append, List.length_drop, lineBreak, List.length_cons,
        List.length_singleton] at hlength
      rw [hrest, List.length_eq_zero_iff.mp (by omega : rest.length = 0), List.append_nil]
    · dsimp only at h
      repeat' (split at h <;> try cases h)
  · rintro ⟨hdrop, hfits⟩
    have hlength := congrArg List.length hdrop
    rw [List.length_drop, lineBreak, List.length_cons, List.length_singleton] at hlength
    have hstop : findFrom lineBreak raw scan.start = some scan.start :=
      @findFrom_append [10] raw [] [] scan.start 13 hstart hdrop (by rintro ⟨⟩)
    rw [scanHeaderLine, hstop]
    dsimp only
    rw [if_pos rfl, HeaderProgress.finished.injEq, decide_eq_true_iff]
    exact ⟨hfits, by omega⟩

/-! ## The scan of all lines -/

/-- What is left of the request is header lines and an empty line. -/
def Remaining (raw : Bytes) (scan : HeaderScan) : Prop :=
  ∃ headers, raw.drop scan.start = headerBlock headers ++ lineBreak ∧
    (∀ header ∈ headers, header.Valid) ∧
    scan.headerBytes + (headerBlock headers).length ≤ kMaximumHttpRequestHeaderBlockBytes ∧
    ∀ pair ∈ scan.occurrences, pair.2 + occurrencesOf pair.1 headers ≤ 1 ∧
      ∀ header ∈ headers, header.Named pair.1 → header.NonBlank

theorem occurrencesOf_cons {name : Bytes} {header : HeaderLine} {headers : List HeaderLine} :
    occurrencesOf name (header :: headers) =
      occurrencesOf name headers + if header.Named name then 1 else 0 := by
  rw [occurrencesOf, List.countP_cons, occurrencesOf]
  simp only [decide_eq_true_eq]

/-- A line can be put before the lines that are left. -/
theorem Taken.remaining {header : HeaderLine} {rest : Bytes} (h : Taken raw scan header rest)
    (hafter : Remaining raw (scan.after header)) : Remaining raw scan := by
  obtain ⟨headers, hdrop, hvalid, hfits, honce⟩ := hafter
  rw [HeaderScan.after] at hdrop hfits honce
  rw [h.place.next.2] at hdrop
  refine ⟨header :: headers, ?_, ?_, ?_, fun pair hpair => ?_⟩
  · rw [h.place.2, hdrop, headerBlock, headerBlock, List.flatMap_cons, List.append_assoc]
  · exact List.forall_mem_cons.mpr ⟨h.valid, hvalid⟩
  · rw [headerBlock, List.flatMap_cons, List.length_append, ← Nat.add_assoc]
    exact hfits
  · obtain ⟨hcount, hvalues⟩ := honce _ (List.mem_map_of_mem hpair)
    rw [occurrencesOf_cons]
    refine ⟨?_, List.forall_mem_cons.mpr ⟨fun hnamed => (h.once pair hpair hnamed).2, hvalues⟩⟩
    rw [HeaderLine.counted] at hcount
    dsimp only at hcount
    omega

/-- Lines that are left end here, or begin with one that is taken. -/
theorem Remaining.cases (h : Remaining raw scan) (hstart : scan.start ≤ raw.length) :
    (raw.drop scan.start = lineBreak ∧
        scan.headerBytes ≤ kMaximumHttpRequestHeaderBlockBytes) ∨
      ∃ header rest, Taken raw scan header rest ∧ Remaining raw (scan.after header) := by
  obtain ⟨headers, hdrop, hvalid, hfits, honce⟩ := h
  cases headers with
  | nil => exact .inl ⟨hdrop, hfits⟩
  | cons header headers =>
      rw [headerBlock, List.flatMap_cons, List.append_assoc] at hdrop
      rw [headerBlock, List.flatMap_cons, List.length_append, ← Nat.add_assoc] at hfits
      have htaken : Taken raw scan header (headerBlock headers ++ lineBreak) := by
        refine ⟨⟨hstart, hdrop⟩, hvalid header List.mem_cons_self,
          Nat.le_trans (Nat.le_add_right _ _) hfits, fun pair hpair hnamed => ?_⟩
        obtain ⟨hcount, hvalues⟩ := honce pair hpair
        rw [occurrencesOf_cons, if_pos hnamed] at hcount
        exact ⟨by omega, hvalues header List.mem_cons_self hnamed⟩
      refine .inr ⟨header, _, htaken, headers, htaken.place.next.2,
        fun later hlater => hvalid later (List.mem_cons_of_mem _ hlater), hfits, ?_⟩
      intro pair hpair
      obtain ⟨before, hbefore, rfl⟩ := List.mem_map.mp hpair
      obtain ⟨hcount, hvalues⟩ := honce before hbefore
      rw [occurrencesOf_cons] at hcount
      refine ⟨?_, fun later hlater => hvalues later (List.mem_cons_of_mem _ hlater)⟩
      rw [HeaderLine.counted]
      dsimp only
      omega

theorem scanHeaders_iff {fuel : ℕ} (hstart : scan.start ≤ raw.length)
    (hfuel : raw.length ≤ scan.start + fuel) (honce : ∀ pair ∈ scan.occurrences, pair.2 ≤ 1) :
    (∃ accepted, scanHeaders raw fuel scan = some accepted) ∧
      (scanHeaders raw fuel scan = some true ↔ Remaining raw scan) := by
  induction fuel generalizing scan with
  | zero =>
      have hend : ¬scan.start < raw.length := by omega
      rw [scanHeaders, if_neg hend]
      refine ⟨⟨false, rfl⟩, nofun, ?_⟩
      rintro ⟨headers, hdrop, _⟩
      have hlength := congrArg List.length hdrop
      rw [List.length_drop, List.length_append, lineBreak, List.length_cons] at hlength
      omega
  | succ fuel ih =>
      rw [scanHeaders]
      split
      · rename_i hmore
        cases hprogress : scanHeaderLine raw scan with
        | finished accepted =>
            refine ⟨⟨accepted, rfl⟩, ?_, fun hremaining => ?_⟩
            · rintro haccepted
              cases haccepted
              obtain ⟨hdrop, hfits⟩ := (finished_iff hstart).mp hprogress
              exact ⟨[], hdrop, nofun, hfits, fun pair hpair => ⟨honce pair hpair, nofun⟩⟩
            · rcases hremaining.cases hstart with hend | ⟨header, rest, htaken, _⟩
              · cases hprogress.symm.trans ((finished_iff hstart).mpr hend)
                rfl
              · obtain ⟨_, _, _, hline⟩ := line_of_taken htaken
                cases hprogress.symm.trans hline
        | line lineEnd colon values later =>
            obtain ⟨header, rest, htaken, rfl, _⟩ := taken_of_line hprogress
            have hlength := header.length_bytes
            have hnext : (scan.after header).start = scan.start + header.bytes.length := rfl
            obtain ⟨hends, hrest⟩ := @ih (scan.after header) htaken.place.next.1 (by omega) (by
              intro pair hpair
              obtain ⟨before, hbefore, rfl⟩ := List.mem_map.mp hpair
              have hle := honce before hbefore
              rw [HeaderLine.counted]
              by_cases hnamed : header.Named before.1
              · have hzero := (htaken.once before hbefore hnamed).1
                rw [if_pos hnamed]
                omega
              · rwa [if_neg hnamed, Nat.add_zero])
            refine ⟨hends, fun haccepted => htaken.remaining (hrest.mp haccepted),
              fun hremaining => hrest.mpr ?_⟩
            rcases hremaining.cases hstart with hend | ⟨other, others, hother, hafter⟩
            · cases hprogress.symm.trans ((finished_iff hstart).mpr hend)
            · obtain ⟨_, _, _, hline⟩ := line_of_taken hother
              have hsame := hprogress.symm.trans hline
              rw [HeaderProgress.line.injEq] at hsame
              rwa [hsame.2.2.2]
      · rename_i hend
        refine ⟨⟨false, rfl⟩, nofun, ?_⟩
        rintro ⟨headers, hdrop, _⟩
        have hlength := congrArg List.length hdrop
        rw [List.length_drop, List.length_append, lineBreak, List.length_cons] at hlength
        omega

end Scan

/-! ## The whole request -/

/-- The scan before the first header line. -/
def firstScan (requestLine : Bytes) : HeaderScan := { start := requestLine.length + 2 }

theorem scanHeaders_first {raw requestLine rest : Bytes}
    (hraw : raw = requestLine ++ (lineBreak ++ rest)) :
    (∃ accepted, scanHeaders raw raw.length (firstScan requestLine) = some accepted) ∧
      (scanHeaders raw raw.length (firstScan requestLine) = some true ↔
        ∃ headers, rest = headerBlock headers ++ lineBreak ∧ (∀ header ∈ headers, header.Valid) ∧
          (headerBlock headers).length ≤ kMaximumHttpRequestHeaderBlockBytes ∧
          ∀ name ∈ kBrowserMetadataHeaders, occurrencesOf name headers ≤ 1 ∧
            ∀ header ∈ headers, header.Named name → header.NonBlank) := by
  have hstart : (firstScan requestLine).start ≤ raw.length := by
    rw [hraw, List.length_append, List.length_append, ← Nat.add_assoc]
    exact Nat.le_add_right _ _
  have hdrop : raw.drop (firstScan requestLine).start = rest := by
    rw [hraw, firstScan, ← List.drop_drop, List.drop_left]
    rfl
  obtain ⟨hends, hiff⟩ := scanHeaders_iff hstart (Nat.le_add_left raw.length _) (by
    intro pair hpair
    obtain ⟨name, _, rfl⟩ := List.mem_map.mp hpair
    exact Nat.zero_le 1)
  refine ⟨hends, hiff.trans ?_⟩
  rw [Remaining, hdrop]
  have hnames : ∀ headers, (∀ pair ∈ (firstScan requestLine).occurrences,
      pair.2 + occurrencesOf pair.1 headers ≤ 1 ∧
        ∀ header ∈ headers, header.Named pair.1 → header.NonBlank) ↔
      ∀ name ∈ kBrowserMetadataHeaders, occurrencesOf name headers ≤ 1 ∧
        ∀ header ∈ headers, header.Named name → header.NonBlank := by
    intro headers
    rw [firstScan, List.forall_mem_map]
    simp only [Nat.zero_add]
  have hbytes : ∀ headers, (firstScan requestLine).headerBytes + (headerBlock headers).length =
      (headerBlock headers).length := fun headers => Nat.zero_add _
  simp only [hnames, hbytes]

theorem requestLine_found {raw requestLine rest : Bytes}
    (hraw : raw = requestLine ++ (lineBreak ++ rest))
    (hascii : ∀ byte ∈ requestLine, 0x20 ≤ byte ∧ byte ≤ 0x7E) :
    findFrom lineBreak raw 0 = some requestLine.length ∧
      slice raw 0 requestLine.length = requestLine := by
  have hline : (13 : Byte) ∉ requestLine := fun hmem => absurd (hascii 13 hmem).1 (by decide)
  refine ⟨?_, ?_⟩
  · exact (findFrom_append (Nat.zero_le _) hraw hline).trans (congrArg some (Nat.zero_add _))
  · rw [slice, List.drop_zero, Nat.sub_zero, hraw, List.take_left]

/-- A raw request is accepted exactly when it is a request line, header lines and an empty
line in which the metadata headers occur once and with a value.  The scan ends, and what it
searched for lies within the line. -/
theorem unique_metadata_headers (raw : Bytes) :
    (∃ accepted, validateUniqueHttpRequestMetadataHeaders raw = some accepted) ∧
    (validateUniqueHttpRequestMetadataHeaders raw = some true ↔ UniqueMetadataRequest raw) ∧
    ∀ scan lineEnd colon values next,
      scanHeaderLine raw scan = .line lineEnd colon values next →
      scan.start < colon ∧ colon < lineEnd ∧ lineEnd + lineBreak.length ≤ raw.length ∧
        ∀ value ∈ values, colon < value ∧ value < lineEnd := by
  have hlines : ∀ scan lineEnd colon values next,
      scanHeaderLine raw scan = .line lineEnd colon values next →
      scan.start < colon ∧ colon < lineEnd ∧ lineEnd + lineBreak.length ≤ raw.length ∧
        ∀ value ∈ values, colon < value ∧ value < lineEnd := by
    intro scan lineEnd colon values next hline
    obtain ⟨header, rest, htaken, _, hcolon, hlineEnd, hvalues⟩ := taken_of_line hline
    have hname := List.length_pos_iff.mpr htaken.valid.name_nonempty
    have hplace := htaken.place.next.1
    have hlength := header.length_bytes
    refine ⟨by omega, by omega, ?_, hvalues⟩
    rw [lineBreak, List.length_cons, List.length_singleton]
    omega
  rw [← and_assoc]
  refine ⟨?_, hlines⟩
  rw [validateUniqueHttpRequestMetadataHeaders]
  split
  · rename_i hsize
    refine ⟨⟨false, rfl⟩, nofun, ?_⟩
    rintro ⟨requestLine, headers, rfl, hline, _, _, _, _, hraw, _⟩
    have hpos := List.length_pos_iff.mpr hline
    simp only [List.length_append, lineBreak, List.length_cons, List.length_nil] at hsize hraw
    omega
  rename_i hsize
  rw [not_or, Nat.not_lt, Nat.not_lt] at hsize
  split
  · rename_i hnone
    refine ⟨⟨false, rfl⟩, nofun, ?_⟩
    rintro ⟨requestLine, headers, hraw, _, _, hascii, _⟩
    cases hnone.symm.trans (requestLine_found hraw hascii).1
  rename_i requestLineEnd hend
  split
  · rename_i hlimits
    refine ⟨⟨false, rfl⟩, nofun, ?_⟩
    rintro ⟨requestLine, headers, hraw, hline, hshort, hascii, _⟩
    have hpos := List.length_pos_iff.mpr hline
    cases hend.symm.trans (requestLine_found hraw hascii).1
    omega
  rename_i hlimits
  rw [not_or, Nat.not_lt] at hlimits
  split
  · rename_i hprintable
    refine ⟨⟨false, rfl⟩, nofun, ?_⟩
    rintro ⟨requestLine, headers, hraw, _, _, hascii, _⟩
    obtain ⟨hfound, hslice⟩ := requestLine_found hraw hascii
    cases hend.symm.trans hfound
    rw [hslice, List.any_eq_true] at hprintable
    obtain ⟨byte, hbyte, hbad⟩ := hprintable
    rw [decide_eq_true_iff] at hbad
    rcases hbad with hlow | hhigh
    · exact absurd (hascii byte hbyte).1 (UInt8.not_le.mpr hlow)
    · exact absurd (hascii byte hbyte).2 (UInt8.not_le.mpr hhigh)
  rename_i hprintable
  obtain ⟨_, hwithin, rest, hraw⟩ := findFrom_eq_some hend
  rw [List.drop_zero] at hraw
  have hlength : (slice raw 0 requestLineEnd).length = requestLineEnd := by
    rw [length_slice (by omega), Nat.sub_zero]
  have hascii : ∀ byte ∈ slice raw 0 requestLineEnd, 0x20 ≤ byte ∧ byte ≤ 0x7E := by
    intro byte hbyte
    rw [List.any_eq_true, not_exists] at hprintable
    have hgood := hprintable byte
    rw [decide_eq_true_iff, not_and, not_or] at hgood
    obtain ⟨hlow, hhigh⟩ := hgood hbyte
    exact ⟨UInt8.not_lt.mp hlow, UInt8.not_lt.mp hhigh⟩
  obtain ⟨hends, hiff⟩ := scanHeaders_first hraw
  rw [firstScan, hlength] at hends hiff
  refine ⟨hends, hiff.trans ?_⟩
  constructor
  · rintro ⟨headers, rfl, hvalid, hfits, hnames⟩
    refine ⟨_, headers, hraw, ?_, by rw [hlength]; exact hlimits.2, hascii, hvalid, hfits,
      hsize.2, hnames⟩
    rw [← List.length_pos_iff, hlength]
    exact Nat.pos_of_ne_zero hlimits.1
  · rintro ⟨requestLine, headers, hother, _, _, hplain, hvalid, hfits, _, hnames⟩
    obtain ⟨hfound, hslice⟩ := requestLine_found hother hplain
    cases hend.symm.trans hfound
    have hrest := hraw.symm.trans hother
    rw [hslice] at hrest
    exact ⟨headers, List.append_cancel_left (List.append_cancel_left hrest), hvalid, hfits,
      hnames⟩

example : validateUniqueHttpRequestMetadataHeaders
    (literal "GET / HTTP/1.1\r\nOrigin: a\r\norigin: b\r\n\r\n") = some false := by
  decide +kernel

example : validateUniqueHttpRequestMetadataHeaders
    (literal "GET / HTTP/1.1\r\nOrigin: a\r\nAccept:\r\n\r\n") = some true := by
  decide +kernel

end Fermentationsschrank
