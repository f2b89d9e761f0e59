import FlowDump.Flow.Stream
import FlowDump.Proofs.Json.LineFeed
import FlowDump.Proofs.Text.Utf8

/-!
# A stream is decoded line by line

A stream comes in chunks that know nothing of its lines, through a buffer of any size.  What comes
of it depends on its bytes alone: they are cut at the line feeds, and each line is decoded by
itself.

* `Reader.ahead`, `Reader.failure?` — what a reader has still before it: the bytes up to the first
  failure, and that failure.
* `readUntil_ok`, `readUntil_error` — a line is cut off at the front of these bytes.
* `Stream.lines` — the lines of a byte string that are not blank; `Stream.records` and
  `Stream.skipped` are what comes of them.
* `decode_lines` — a stream is decoded line by line, and a stream that fails yields nothing.
-/

namespace FlowDump.Flow

/-! ### What a source delivers -/

/-- The bytes of each `Delivery` of a source before its first failure. -/
def delivered : List Delivery → List UInt8
  | [] => []
  | .bytes chunk :: rest => chunk ++ delivered rest
  | .interrupted :: rest => delivered rest
  | .failed _ :: _ => []

/-- The first failure of a source. -/
def failure? : List Delivery → Option String
  | [] => none
  | .bytes _ :: rest => failure? rest
  | .interrupted :: rest => failure? rest
  | .failed message :: _ => some message

namespace Reader

/-- The bytes that a reader has before it: its buffer and what is `delivered` behind it. -/
def ahead (r : Reader) : List UInt8 :=
  r.buffer ++ delivered r.source

/-- The failure that a reader has before it. -/
def failure? (r : Reader) : Option String :=
  Flow.failure? r.source

/-! ### Asking the source -/

/-- What `ask` gives and what it leaves are what the source would have `delivered`; nothing at all
    is its end. -/
theorem ask_ok {capacity : Nat} (capacity_pos : 0 < capacity) {source left : List Delivery}
    {buffer : List UInt8} (h : ask capacity source = .ok (buffer, left)) :
    buffer ++ delivered left = delivered source ∧ Flow.failure? left = Flow.failure? source ∧
      (buffer = [] → delivered source = [] ∧ Flow.failure? source = none) := by
  induction source with
  | nil =>
    cases h
    exact ⟨rfl, rfl, fun _ => ⟨rfl, rfl⟩⟩
  | cons d rest ih =>
    cases d with
    -- an interrupted read and an empty chunk are passed over, and deliver nothing
    | interrupted => exact ih h
    | failed message => cases h
    | bytes chunk =>
      cases chunk with
      | nil => exact ih h
      | cons b chunk =>
        cases h
        refine ⟨?_, rfl, ?_⟩
        · rw [delivered, delivered, ← List.append_assoc, List.take_append_drop]
        -- the capacity is positive, so a chunk that is not empty does not leave an empty buffer
        · intro hnil
          have := congrArg List.length hnil
          simp only [List.length_take, List.length_cons, List.length_nil] at this
          omega

/-- `ask` fails where the source fails before it delivers anything. -/
theorem ask_error {capacity : Nat} {source : List Delivery} {message : String}
    (h : ask capacity source = .error message) :
    delivered source = [] ∧ Flow.failure? source = some message := by
  induction source with
  | nil => cases h
  | cons d rest ih =>
    cases d with
    | interrupted => exact ih h
    | failed message' =>
      cases h
      exact ⟨rfl, rfl⟩
    | bytes chunk =>
      cases chunk with
      | nil => exact ih h
      | cons b chunk => cases h

/-- `Reader.fill` changes nothing of what is `ahead`; an empty buffer is the end. -/
theorem fill_ok {r r' : Reader} (h : r.fill = .ok r') :
    r'.ahead = r.ahead ∧ r'.failure? = r.failure? ∧
      (r'.buffer = [] → r.ahead = [] ∧ r.failure? = none) := by
  unfold fill at h
  split at h
  -- only an empty buffer asks the source, so `ahead` is what the source has left to deliver
  · rename_i hb
    cases ha : ask r.capacity r.source with
    | error message => simp [ha, Except.map] at h
    | ok answer =>
      obtain ⟨buffer, source⟩ := answer
      simp only [ha, Except.map, Except.ok.injEq] at h
      subst h
      obtain ⟨hd, hf, hend⟩ := ask_ok r.capacity_pos ha
      refine ⟨?_, hf, ?_⟩
      · simp [ahead, hd, hb]
      · intro hnil
        obtain ⟨hd', hf'⟩ := hend hnil
        exact ⟨by simp [ahead, hb, hd'], hf'⟩
  · rename_i hb
    cases h
    exact ⟨rfl, rfl, fun hnil => absurd hnil hb⟩

/-- `Reader.fill` fails where a failure is all that is ahead. -/
theorem fill_error {r : Reader} {message : String} (h : r.fill = .error message) :
    r.ahead = [] ∧ r.failure? = some message := by
  unfold fill at h
  split at h
  · rename_i hb
    cases ha : ask r.capacity r.source with
    | error message' =>
      simp only [ha, Except.map, Except.error.injEq] at h
      subst h
      obtain ⟨hd, hf⟩ := ask_error ha
      exact ⟨by simp [ahead, hb, hd], hf⟩
    | ok answer => simp [ha, Except.map] at h
  · cases h

/-! ### Cutting off a line -/

/-- `readUntil` cuts a line off at the first mark, or hands on all that is `ahead` where there is no
    mark and the stream has an end. -/
theorem readUntil_ok {mark : UInt8} {r r' : Reader} {line : List UInt8}
    (h : r.readUntil mark = .ok (line, r')) :
    line ++ r'.ahead = r.ahead ∧ r'.failure? = r.failure? ∧
      ((∃ init, line = init ++ [mark] ∧ mark ∉ init) ∨
        (mark ∉ line ∧ r'.ahead = [] ∧ r.failure? = none)) := by
  fun_induction readUntil mark r generalizing line r' with
  | case1 => cases h
  -- a mark in the buffer: the line is what precedes it there, and the buffer keeps what follows
  | case2 r filled hf m rest hd =>
    cases h
    obtain ⟨hahead, hfailure, -⟩ := fill_ok hf
    have cut := List.takeWhile_append_dropWhile (p := fun b => decide (b ≠ mark))
      (l := filled.buffer)
    rw [hd] at cut
    have hm : m = mark := by
      have := List.head?_dropWhile_not (fun b => decide (b ≠ mark)) filled.buffer
      rw [hd] at this
      simpa using this
    subst hm
    refine ⟨?_, hfailure, .inl ⟨_, rfl, ?_⟩⟩
    · rw [← hahead, ahead, ahead]
      simp only [List.append_assoc, List.singleton_append]
      rw [← List.cons_append, ← List.append_assoc, cut]
    · intro hmem
      have := List.all_eq_true.mp (List.all_takeWhile (p := fun b => decide (b ≠ m))) m hmem
      simp at this
  -- nothing was delivered, so this is the end, and no mark was met
  | case3 r filled hf hd hb =>
    cases h
    obtain ⟨hahead, hfailure, hend⟩ := fill_ok hf
    obtain ⟨hnil, hnone⟩ := hend hb
    exact ⟨hahead, hfailure, .inr ⟨by simp, by rw [hahead, hnil], hnone⟩⟩
  -- the buffer is full of a line that goes on behind it: it is put before what is cut off later
  | case4 r filled hf hd hb ih =>
    obtain ⟨hahead, hfailure, -⟩ := fill_ok hf
    have unmarked : mark ∉ filled.buffer := by
      intro hmem
      have all := List.all_takeWhile (p := fun b => decide (b ≠ mark)) (l := filled.buffer)
      have cut := List.takeWhile_append_dropWhile (p := fun b => decide (b ≠ mark))
        (l := filled.buffer)
      rw [hd, List.append_nil] at cut
      rw [cut] at all
      simpa using List.all_eq_true.mp all mark hmem
    cases hm : readUntil mark { filled with buffer := [] } with
    | error message => simp [hm, Except.map] at h
    | ok answer =>
      obtain ⟨more, r''⟩ := answer
      simp only [hm, Except.map, Except.ok.injEq, Prod.mk.injEq] at h
      obtain ⟨rfl, rfl⟩ := h
      obtain ⟨hmore, hfailure', hline⟩ := ih hm
      refine ⟨?_, hfailure'.trans hfailure, ?_⟩
      · rw [List.append_assoc, hmore, ← hahead]
        simp [ahead]
      · rcases hline with ⟨init, rfl, hinit⟩ | ⟨hmark, hnil, hnone⟩
        · exact .inl ⟨filled.buffer ++ init, by simp, by simp [unmarked, hinit]⟩
        · exact .inr ⟨by simp [unmarked, hmark], hnil, hfailure ▸ hnone⟩

/-- `readUntil` fails where it meets the failure before a mark. -/
theorem readUntil_error {mark : UInt8} {r : Reader} {message : String}
    (h : r.readUntil mark = .error message) : r.failure? = some message := by
  fun_induction readUntil mark r with
  | case1 r message' hf =>
    cases h
    exact (fill_error hf).2
  | case2 => cases h
  | case3 => cases h
  -- a failure behind the buffer is the one that `fill` left ahead
  | case4 r filled hf hd hb ih =>
    obtain ⟨-, hfailure, -⟩ := fill_ok hf
    cases hm : readUntil mark { filled with buffer := [] } with
    | error message' =>
      simp only [hm, Except.map, Except.error.injEq] at h
      subst h
      exact hfailure ▸ ih hm
    | ok answer => simp [hm, Except.map] at h

end Reader

/-! ### Lines -/

/-- `Record.ofLine?` finds a record in a line with or without the line feed that ends it. -/
theorem Record.ofLine?_append_lineFeed (line : List UInt8) :
    ofLine? (line ++ [Stream.lineFeed]) = ofLine? line := by
  unfold ofLine? Stream.lineFeed
  rw [Utf8.decode?_append_lineFeed]
  cases Utf8.decode? line with
  | none => rfl
  | some text =>
    have toList : (text ++ "\n").toList = text.toList ++ ['\n'] := by simp
    simp only [Option.map_some, Option.bind_eq_bind, Option.bind_some, toList]
    rw [Json.parse_append_lineFeed]

namespace Stream

/-- Whether a line counts: one of blanks, by `Text.isBlankByte`, does not. -/
def counts (line : List UInt8) : Bool :=
  !line.all Text.isBlankByte

/-- The lines that count, by `counts`, without their line feeds.  The last one needs no line feed.
    -/
def lines (bytes : List UInt8) : List (List UInt8) :=
  (bytes.splitOn lineFeed).filter counts

/-- The records of the `lines` that hold one. -/
def records (bytes : List UInt8) : List Record :=
  (lines bytes).filterMap Record.ofLine?

/-- How many `lines` hold no record. -/
def skipped (bytes : List UInt8) : Nat :=
  (lines bytes).countP fun line => (Record.ofLine? line).isNone

/-- The line feed that ends a line does not make it count, by `counts`. -/
theorem counts_append_lineFeed (line : List UInt8) :
    counts (line ++ [lineFeed]) = counts line := by
  simp [counts, Text.isBlankByte, lineFeed]

/-- A line does not count, by `counts`, where all its bytes are tabs, line feeds, form feeds,
    carriage returns or spaces. -/
theorem counts_eq_false_iff (line : List UInt8) :
    counts line = false ↔ ∀ b ∈ line, b ∈ [0x09, 0x0A, 0x0C, 0x0D, 0x20] := by
  simp only [counts, Text.isBlankByte, Bool.not_eq_eq_eq_not, Bool.not_false, List.all_eq_true,
    Bool.or_eq_true, decide_eq_true_eq, List.mem_cons, List.not_mem_nil, or_false]
  grind

@[simp] theorem lines_nil : lines [] = [] := by
  simp [lines, counts]

/-- `lines` are cut apart at a line feed: those before it, and those after it. -/
theorem lines_append (first rest : List UInt8) :
    lines (first ++ lineFeed :: rest) = lines first ++ lines rest := by
  rw [lines, List.splitOn_append_cons_self, List.filter_append, lines, lines]

/-- Bytes without a line feed are one of `lines` at most. -/
theorem lines_of_notMem {line : List UInt8} (h : lineFeed ∉ line) :
    lines line = [line].filter counts := by
  rw [lines, List.splitOn_eq_singleton h]

/-- The `records` of bytes that end with a line feed are decoded apart from what follows. -/
theorem records_append_of_ends (first rest : List UInt8) :
    records (first ++ [lineFeed] ++ rest) = records (first ++ [lineFeed]) ++ records rest := by
  rw [List.append_assoc, List.singleton_append, records, records, records, lines_append,
    lines_append, lines_nil, List.append_nil, List.filterMap_append]

/-- Every line that counts is a record or is `skipped`. -/
theorem skipped_add_length_records (bytes : List UInt8) :
    skipped bytes + (records bytes).length = (lines bytes).length := by
  unfold skipped records
  generalize lines bytes = ls
  induction ls with
  | nil => rfl
  | cons line ls ih =>
    cases h : Record.ofLine? line with
    | none =>
      rw [List.countP_cons_of_pos (by simp [h]), List.filterMap_cons_none h, List.length_cons]
      omega
    | some record =>
      rw [List.countP_cons_of_neg (by simp [h]), List.filterMap_cons_some h, List.length_cons,
        List.length_cons]
      omega

/-- Something is `skipped` exactly where some line holds no record. -/
theorem skipped_ne_zero_iff (bytes : List UInt8) :
    skipped bytes ≠ 0 ↔ ∃ line ∈ lines bytes, Record.ofLine? line = none := by
  unfold skipped
  rw [← Nat.pos_iff_ne_zero, List.countP_pos_iff]
  simp

/-- A line with a byte that is no blank `counts`. -/
theorem counts_of_not_blank {line : List UInt8} (blank : ¬ line.all Text.isBlankByte) :
    counts line = true := by
  rw [counts, Bool.eq_false_iff.mpr blank]
  rfl

/-- What `readUntil` hands on as a line is the next line of what the reader has `ahead`, up to its
    line feed. -/
theorem exists_line {r r' : Reader} {handed : List UInt8}
    (h : r.readUntil lineFeed = .ok (handed, r')) :
    ∃ line, counts handed = counts line ∧ Record.ofLine? handed = Record.ofLine? line ∧
      lines r.ahead = [line].filter counts ++ lines r'.ahead := by
  obtain ⟨hahead, -, ⟨line, rfl, hline⟩ | ⟨hline, hnil, -⟩⟩ := Reader.readUntil_ok h
  · refine ⟨line, counts_append_lineFeed line, Record.ofLine?_append_lineFeed line, ?_⟩
    rw [← hahead, List.append_assoc, List.singleton_append, lines_append, lines_of_notMem hline]
  · refine ⟨handed, rfl, rfl, ?_⟩
    rw [hnil, List.append_nil] at hahead
    rw [hnil, lines_nil, List.append_nil, ← hahead, lines_of_notMem hline]

/-! ### Line after line -/

/-- A line of blanks is passed over by `records` and by `skipped`. -/
theorem ahead_of_blank {r r' : Reader} {handed : List UInt8}
    (h : r.readUntil lineFeed = .ok (handed, r')) (blank : handed.all Text.isBlankByte) :
    records r.ahead = records r'.ahead ∧ skipped r.ahead = skipped r'.ahead := by
  obtain ⟨line, hcounts, -, hlines⟩ := exists_line h
  have out : counts line = false := by
    rw [← hcounts, counts, blank]
    rfl
  simp [records, skipped, hlines, out]

/-- A line with a record gives it to `records`. -/
theorem ahead_of_record {r r' : Reader} {handed : List UInt8} {record : Record}
    (h : r.readUntil lineFeed = .ok (handed, r')) (blank : ¬ handed.all Text.isBlankByte)
    (hrecord : Record.ofLine? handed = some record) :
    records r.ahead = record :: records r'.ahead ∧ skipped r.ahead = skipped r'.ahead := by
  obtain ⟨line, hcounts, hsame, hlines⟩ := exists_line h
  have kept : counts line = true := hcounts ▸ counts_of_not_blank blank
  rw [hsame] at hrecord
  simp [records, skipped, hlines, kept, hrecord]

/-- A line without one is counted by `skipped`. -/
theorem ahead_of_none {r r' : Reader} {handed : List UInt8}
    (h : r.readUntil lineFeed = .ok (handed, r')) (blank : ¬ handed.all Text.isBlankByte)
    (hrecord : Record.ofLine? handed = none) :
    records r.ahead = records r'.ahead ∧ skipped r.ahead = 1 + skipped r'.ahead := by
  obtain ⟨line, hcounts, hsame, hlines⟩ := exists_line h
  have kept : counts line = true := hcounts ▸ counts_of_not_blank blank
  rw [hsame] at hrecord
  simp [records, skipped, hlines, kept, hrecord, Nat.add_comm]

/-! ### Whole streams -/

/-- `decodeFrom` reads a stream without a failure to its end, line after line. -/
theorem decodeFrom_ahead (found : List Record) (n : Nat) (r : Reader) (h : r.failure? = none) :
    decodeFrom found n r
      = complete (found.reverse ++ records r.ahead) (n + skipped r.ahead) := by
  fun_induction decodeFrom found n r with
  | case1 found n r message hr =>
    rw [Reader.readUntil_error hr] at h
    cases h
  | case2 found n r r' hr =>
    -- nothing handed on is the end of the stream
    obtain ⟨hahead, -, ⟨init, hinit, -⟩ | ⟨-, hnil, -⟩⟩ := Reader.readUntil_ok hr
    · simp at hinit
    · rw [hnil] at hahead
      simp [← hahead, records, skipped]
  | case3 found n r b handed r' hr blank ih =>
    obtain ⟨hrecords, hskipped⟩ := ahead_of_blank hr blank
    rw [ih ((Reader.readUntil_ok hr).2.1.trans h), hrecords, hskipped]
  | case4 found n r b handed r' hr blank record hrecord ih =>
    obtain ⟨hrecords, hskipped⟩ := ahead_of_record hr blank hrecord
    rw [ih ((Reader.readUntil_ok hr).2.1.trans h), hrecords, hskipped, List.reverse_cons,
      List.append_assoc, List.singleton_append]
  | case5 found n r b handed r' hr blank hrecord ih =>
    obtain ⟨hrecords, hskipped⟩ := ahead_of_none hr blank hrecord
    rw [ih ((Reader.readUntil_ok hr).2.1.trans h), hrecords, hskipped, Nat.add_assoc]

/-- `decodeFrom` gives nothing of a stream that fails, whatever came before. -/
theorem decodeFrom_failure (found : List Record) (n : Nat) (r : Reader) {message : String}
    (h : r.failure? = some message) :
    decodeFrom found n r = { records := [], notes := [unreadable message] } := by
  fun_induction decodeFrom found n r with
  | case1 found n r message' hr =>
    rw [Reader.readUntil_error hr] at h
    cases h
    rfl
  -- nothing was handed on, which is the end of a stream that does not fail
  | case2 found n r r' hr =>
    obtain ⟨-, -, ⟨init, hinit, -⟩ | ⟨-, -, hnone⟩⟩ := Reader.readUntil_ok hr
    · simp at hinit
    · rw [hnone] at h
      cases h
  | case3 found n r b handed r' hr hblank ih => exact ih ((Reader.readUntil_ok hr).2.1.trans h)
  | case4 found n r b handed r' hr hblank record hrecord ih =>
    exact ih ((Reader.readUntil_ok hr).2.1.trans h)
  | case5 found n r b handed r' hr hblank hrecord ih =>
    exact ih ((Reader.readUntil_ok hr).2.1.trans h)

/-- What `decode` gives of a stream without a failure rests on the bytes `ahead`. -/
theorem decode_ahead {r : Reader} (h : r.failure? = none) :
    decode r = complete (records r.ahead) (skipped r.ahead) := by
  rw [decode, decodeFrom_ahead [] 0 r h, List.reverse_nil, List.nil_append, Nat.zero_add]

/-- **A stream is decoded line by line.**  The bytes of a stream are cut at their line feeds
    however they came, through a buffer of any size and with any interruptions.  The lines that hold
    a record, by `Record.ofLine?`, give the records, in order; the one remark of `decode` counts the
    others, blank lines apart, beside the records, and stands exactly where there is another.  A
    failure before the end leaves nothing but the remark that names it.  What follows a line feed is
    decoded by itself. -/
theorem decode_lines :
    (∀ r : Reader, r.failure? = none →
      (decode r).records = (lines r.ahead).filterMap Record.ofLine? ∧
      (decode r).notes =
        if skipped r.ahead = 0 then []
        else [{ level := .debug, component := .decoder, message := "skipped undecodable lines",
                fields := [("skipped", .number (skipped r.ahead)),
                  ("decoded", .number (decode r).records.length)] }]) ∧
    (∀ line : List UInt8,
      counts line = false ↔ ∀ b ∈ line, b ∈ [0x09, 0x0A, 0x0C, 0x0D, 0x20]) ∧
    (∀ bytes : List UInt8,
      skipped bytes + ((lines bytes).filterMap Record.ofLine?).length = (lines bytes).length ∧
      (skipped bytes ≠ 0 ↔ ∃ line ∈ lines bytes, Record.ofLine? line = none)) ∧
    (∀ (r : Reader) (message : String), r.failure? = some message →
      decode r =
        { records := [],
          notes := [{ level := .debug, component := .decoder,
                      message := "artifact unreadable, discarding",
                      fields := [("error", .text message)] }] }) ∧
    (∀ (r₁ r₂ r : Reader) (first : List UInt8),
      r₁.failure? = none → r₂.failure? = none → r.failure? = none →
      r₁.ahead = first ++ [lineFeed] → r.ahead = r₁.ahead ++ r₂.ahead →
      (decode r).records = (decode r₁).records ++ (decode r₂).records) := by
  refine ⟨?_, counts_eq_false_iff, ?_, ?_, ?_⟩
  · intro r h
    rw [decode_ahead h]
    exact ⟨rfl, rfl⟩
  · intro bytes
    exact ⟨skipped_add_length_records bytes, skipped_ne_zero_iff bytes⟩
  · intro r message h
    exact decodeFrom_failure [] 0 r h
  -- the first stream ends with a line feed, so no line reaches from one stream into the other
  · intro r₁ r₂ r first h₁ h₂ h hfirst hall
    rw [decode_ahead h, decode_ahead h₁, decode_ahead h₂, hall, hfirst]
    exact records_append_of_ends first r₂.ahead

/-- An object, a line of blanks and a line that is no record; a chunk ends inside a character. -/
def cutLines : Reader :=
  { capacity := 4
    source := [.bytes [0x7B, 0x22, 0xC3], .interrupted, .bytes [0xA9, 0x22, 0x3A, 0x31, 0x7D, 0x0A],
      .bytes [0x20, 0x0A, 0x78, 0x0A]] }

/-- An object without a line feed. -/
def lastLine : Reader :=
  { source := [.bytes [0x7B], .bytes [0x7D]] }

/-- Of the lines of `cutLines` one is a record, a line of blanks does not count and one is
    `skipped`, as the remark says.  With a failure behind them nothing is left, and `lastLine` has
    its record behind theirs. -/
theorem decode_lines_cutLines :
    (decode cutLines).records = (lines cutLines.ahead).filterMap Record.ofLine? ∧
    (decode cutLines).notes =
      [{ level := .debug, component := .decoder, message := "skipped undecodable lines",
         fields := [("skipped", .number 1), ("decoded", .number 1)] }] ∧
    counts [0x20] = false ∧
    (∃ line ∈ lines cutLines.ahead, Record.ofLine? line = none) ∧
    decode { cutLines with source := cutLines.source ++ [.failed "connection reset"] }
      = { records := [],
          notes := [{ level := .debug, component := .decoder,
                      message := "artifact unreadable, discarding",
                      fields := [("error", .text "connection reset")] }] } ∧
    (decode { cutLines with source := cutLines.source ++ lastLine.source }).records
      = (decode cutLines).records ++ (decode lastLine).records := by
  obtain ⟨whole, blank, counted, broken, joined⟩ := decode_lines
  have one : skipped cutLines.ahead = 1 := by decide +kernel
  obtain ⟨hrecords, hnotes⟩ := whole cutLines rfl
  refine ⟨hrecords, ?_, ?_, ?_, broken _ _ rfl, ?_⟩
  · rw [hnotes, one, show (decode cutLines).records.length = 1 by decide +kernel]
    rfl
  · exact (blank [0x20]).mpr (List.forall_mem_singleton.mpr (by decide))
  · exact (counted cutLines.ahead).2.mp (by rw [one]; decide)
  · exact joined cutLines lastLine _ (cutLines.ahead.dropLast) rfl rfl rfl (by decide) (by decide)

end Stream

end FlowDump.Flow
