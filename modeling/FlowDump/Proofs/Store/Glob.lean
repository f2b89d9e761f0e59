import FlowDump.Proofs.Decimal
import FlowDump.Proofs.Store.Keys
import FlowDump.Proofs.Store.Server
import FlowDump.Proofs.Text.Utf8

/-!
# A subscription selects the channels of its table

A database compares a pattern byte by byte with every channel on which it tells of a change, and
some characters of a pattern stand for others.  None of them can be in the name of a table that
passes the check, so the pattern of a subscription selects the channels that start with its stem,
which are those from which a key is taken.

* `Glob.parts` — a pattern part by part; `Glob.fits` — whether a channel is of its form.
* `Glob.selects` — whether a pattern selects a channel.
* `selects_append_star` — text without special characters and a star select what starts so.
* `pattern_selects` — what the subscription of a valid configuration selects, and what becomes of
  the messages that it brings.
-/

namespace FlowDump.Store

namespace Glob

/-! ### Patterns -/

/-- What one byte may be. -/
inductive Single where
  | byte (b : UInt8)
  | any
  /-- A byte within some bounds, or outside all of them. -/
  | set (negated : Bool) (bounds : List (UInt8 × UInt8))
  deriving DecidableEq, Repr, Inhabited

/-- Whether a byte is what a `Single` may be. -/
def Single.holds : Single → UInt8 → Bool
  | byte a, b => a = b
  | any, _ => true
  | set negated bounds, b => (bounds.any fun r => r.1 ≤ b && b ≤ r.2) != negated

/-- A part of a pattern: a `Single` byte, or any number of bytes. -/
inductive Part where
  | one (s : Single)
  | many
  deriving DecidableEq, Repr, Inhabited

/-- The characters that stand for others in a pattern. -/
def special : List Char := ['*', '?', '[', '\\']

/-- The first member of a set as bounds, which may be given the wrong way round, and what follows
    it. -/
def member (b : UInt8) : List UInt8 → (UInt8 × UInt8) × List UInt8
  | [] => ((b, b), [])
  | [c] => if b = '\\'.toUInt8 then ((c, c), []) else ((b, b), [c])
  | c :: last :: rest =>
    if b = '\\'.toUInt8 then ((c, c), last :: rest)
    else if c = '-'.toUInt8 then ((min b last, max b last), rest)
    else ((b, b), c :: last :: rest)

/-- A `member` leaves no more than follows its first byte. -/
theorem length_member_le (b : UInt8) (s : List UInt8) : (member b s).2.length ≤ s.length := by
  fun_cases member b s <;> simp only [List.length_cons] <;> omega

/-- The members of a set, one `member` after the other, up to the bracket that closes it, and what
    follows.  A set that is not closed ends with the pattern. -/
def members : List UInt8 → List (UInt8 × UInt8) × List UInt8
  | [] => ([], [])
  | b :: rest =>
    if b = ']'.toUInt8 then ([], rest)
    else
      let others := members (member b rest).2
      ((member b rest).1 :: others.1, others.2)
  termination_by s => s.length
  decreasing_by exact Nat.lt_succ_of_le (length_member_le b rest)

/-- The `members` of a set leave no more than they were given. -/
theorem length_members_le (s : List UInt8) : (members s).2.length ≤ s.length := by
  fun_induction members s with
  | case1 => exact Nat.le_refl _
  | case2 rest => exact Nat.le_succ _
  | case3 b rest _ others ih =>
    have first := length_member_le b rest
    simp only [List.length_cons]
    exact Nat.le_succ_of_le (Nat.le_trans ih first)

/-- A set from after its opening bracket, and what follows it. -/
def readSet : List UInt8 → Single × List UInt8
  | [] => (.set false [], [])
  | b :: rest =>
    if b = '^'.toUInt8 then (.set true (members rest).1, (members rest).2)
    else (.set false (members (b :: rest)).1, (members (b :: rest)).2)

/-- `readSet` leaves no more than it was given. -/
theorem length_readSet_le (s : List UInt8) : (readSet s).2.length ≤ s.length := by
  fun_cases readSet s with
  | case1 => exact Nat.le_refl _
  | case2 rest => exact Nat.le_succ_of_le (length_members_le rest)
  | case3 b rest => exact length_members_le (b :: rest)

/-- The parts of a pattern. -/
def parts : List UInt8 → List Part
  | [] => []
  | b :: rest =>
    if b = '*'.toUInt8 then .many :: parts rest
    else if b = '?'.toUInt8 then .one .any :: parts rest
    else if b = '['.toUInt8 then .one (readSet rest).1 :: parts (readSet rest).2
    -- a backslash at the end stands for itself
    else if b = '\\'.toUInt8 then .one (.byte (rest.headD b)) :: parts rest.tail
    else .one (.byte b) :: parts rest
  termination_by s => s.length
  decreasing_by
    · exact Nat.lt_succ_self _
    · exact Nat.lt_succ_self _
    · exact Nat.lt_succ_of_le (length_readSet_le rest)
    · exact Nat.lt_succ_of_le (rest.length_tail ▸ Nat.sub_le ..)
    · exact Nat.lt_succ_self _

/-- Whether bytes are of a form, `Part` by `Part`. -/
def fits : List Part → List UInt8 → Bool
  | [], s => s.isEmpty
  | .many :: ps, s => s.tails.any (fits ps)
  | .one _ :: _, [] => false
  | .one p :: ps, b :: s => p.holds b && fits ps s

/-- Whether a pattern selects a channel: the bytes of the channel are of the form of its `parts`. -/
def selects (pattern channel : String) : Bool :=
  fits (parts (Utf8.encode pattern)) (Utf8.encode channel)

/-! ### Text and a star -/

/-- Bytes that are not `special` are parts that stand for themselves. -/
theorem parts_append {front : List UInt8} (plain : ∀ c ∈ special, c.toUInt8 ∉ front)
    (rest : List UInt8) :
    parts (front ++ rest) = front.map (fun b => .one (.byte b)) ++ parts rest := by
  induction front with
  | nil => rfl
  | cons b front ih =>
    have later : ∀ c ∈ special, c.toUInt8 ∉ front :=
      fun c hc hb => plain c hc (List.mem_cons_of_mem b hb)
    have first : ∀ c ∈ special, b ≠ c.toUInt8 :=
      fun c hc hb => plain c hc (hb ▸ List.mem_cons_self)
    simp only [special, List.forall_mem_cons] at first
    obtain ⟨not_star, not_mark, not_bracket, not_escape, -⟩ := first
    rw [List.cons_append, parts, if_neg not_star, if_neg not_mark, if_neg not_bracket,
      if_neg not_escape, ih later, List.map_cons, List.cons_append]

/-- Parts that stand for themselves ask for these bytes at the front. -/
theorem fits_bytes_append (front : List UInt8) (ps : List Part) (s : List UInt8) :
    fits (front.map (fun b => .one (.byte b)) ++ ps) s = true ↔
      ∃ rest, s = front ++ rest ∧ fits ps rest = true := by
  induction front generalizing s with
  | nil => simp
  | cons b front ih =>
    cases s with
    | nil => simp [fits]
    | cons a s =>
      rw [List.map_cons, List.cons_append, fits, Bool.and_eq_true, ih, Single.holds,
        decide_eq_true_eq]
      simp only [List.cons_append, List.cons.injEq, and_assoc, exists_and_left, eq_comm]

/-- A star at the end `fits` everything. -/
theorem fits_many (s : List UInt8) : fits [.many] s = true := by
  rw [fits, List.any_eq_true]
  exact ⟨[], (List.mem_tails [] s).mpr List.nil_suffix, rfl⟩

/-- **A text without `special` characters and a star select the channels that start with the text.**
    -/
theorem selects_append_star {stem : String} (plain : ∀ c ∈ special, c ∉ stem.toList)
    (channel : String) :
    selects (stem ++ "*") channel = true ↔ ∃ key, channel = stem ++ key := by
  have plain_bytes : ∀ c ∈ special, c.toUInt8 ∉ Utf8.encode stem := by
    have ascii : ∀ c ∈ special, c.toNat < 0x80 := by simp [special]
    intro c hc hb
    rw [← String.ofList_toList (s := stem), Utf8.mem_encode_iff (ascii c hc)] at hb
    exact plain c hc hb
  have star : parts (Utf8.encode "*") = [.many] := by decide +kernel
  rw [selects, Utf8.encode_append, parts_append plain_bytes, star, fits_bytes_append]
  constructor
  · rintro ⟨rest, starts, -⟩
    exact Utf8.exists_eq_append starts
  · rintro ⟨key, rfl⟩
    exact ⟨Utf8.encode key, Utf8.encode_append stem key, fits_many _⟩

end Glob

/-! ### The pattern of a table -/

/-- Up to the key no channel of a table has a `special` character, if the table has none in its
    name. -/
theorem notMem_channelStem {table : String} (plain : ∀ c ∈ Glob.special, c ∉ table.toList)
    (index : UInt32) : ∀ c ∈ Glob.special, c ∉ (channelStem index table).toList := by
  have around : ∀ c ∈ Glob.special, c ∉ ("__keyspace@".toList ++ "__:".toList ++ separator.toList) ∧
      c.isDigit = false := by
    simp [Glob.special, separator]
  intro c hc hm
  obtain ⟨no_mark, no_digit⟩ := around c hc
  -- the index is written in digits, and no special character is one
  have not_number : c ∉ Nat.toDigits 10 index.toNat := by
    intro h
    rw [Decimal.isDigit_of_mem h] at no_digit
    cases no_digit
  rw [List.mem_append, List.mem_append, not_or, not_or] at no_mark
  simp only [channelStem, databaseStem, String.toList_append, String.toList_ofList,
    List.mem_append] at hm
  rcases hm with (((front | number) | middle) | name) | last
  · exact no_mark.1.1 front
  · exact not_number number
  · exact no_mark.1.2 middle
  · exact plain c hc name
  · exact no_mark.2 last

/-- The `pattern` of a table that may be named in a configuration selects the channels that start
    with its `channelStem`. -/
theorem selects_pattern {table : String} (sound : Config.SoundTable table) (index : UInt32)
    (c : String) :
    Glob.selects (pattern index table) c = true ↔ ∃ key, c = channelStem index table ++ key := by
  have reserved : Glob.special ⊆ Config.reserved := by decide
  exact Glob.selects_append_star
    (notMem_channelStem (fun c hc => sound.unreserved c (reserved hc)) index) c

/-- `keyOfChannel?` gives what stands behind the stem, unless that is nothing. -/
theorem keyOfChannel?_append (stem key : String) :
    keyOfChannel? stem (stem ++ key) = if key = "" then none else some key := by
  split
  · rename_i empty
    rw [Option.eq_none_iff_forall_ne_some]
    intro other given
    obtain ⟨named, same⟩ := keyOfChannel?_eq_some_iff.mp given
    exact named ((String.append_right_inj stem).mp same ▸ empty)
  · rename_i named
    exact keyOfChannel?_eq_some_iff.mpr ⟨named, rfl⟩

/-- `Subscription.judge` makes a message on a channel that starts with the stem an event of the key
    behind it, unless there is none. -/
theorem judge_message {stem key : String} {message name payload : Reply}
    (parts_eq : message.message? = some (name, payload))
    (name_eq : name.channel? = some (stem ++ key)) :
    Subscription.judge stem (.reply message) =
      .ok (if key = "" then none else some { key, operation := payload.text?.getD "" }) := by
  have event : Subscription.notification? stem message =
      if key = "" then none else some { key, operation := payload.text?.getD "" } := by
    simp only [Subscription.notification?, parts_eq, name_eq, bind, Option.bind_some,
      keyOfChannel?_append]
    split <;> rfl
  cases message with
  | error text => cases parts_eq
  | _ => exact congrArg Except.ok event

/-- **A subscription selects the channels of its table**, for every table of a configuration that
    passes its check.  The `pattern` selects exactly the channels that start with the `channelStem`,
    so those of all keys of the table are among them, and each gives its key unless that is empty.
    A subscription that stands has asked for this pattern, and a message on a channel that it
    selects comes as the event of the key. -/
theorem pattern_selects {config : Config} (checked : config.check = .ok ()) (index : UInt32) :
    (∀ c : String, Glob.selects (pattern index config.stateTable) c = true ↔
      ∃ key, c = channelStem index config.stateTable ++ key) ∧
    (∀ c : String, Glob.selects (pattern index config.stateTable) c = true →
      ∃ key, c = channelStem index config.stateTable ++ key ∧
        keyOfChannel? (channelStem index config.stateTable) c
          = if key = "" then none else some key) ∧
    (∀ session : SessionName, Glob.selects (pattern index config.stateTable)
      (channel index (stateKey config.stateTable session)) = true) ∧
    ∀ {ε : Type} (server : Server ε) (connection : Connection) (outside : ε) (s : Subscription),
      (Subscription.start server connection index config.stateTable outside).1.result = .ok s →
      (∃ reply, (server.ask connection
        ["PSUBSCRIBE", pattern index config.stateTable] outside).1 = .ok reply) ∧
      ∀ (maxWait : Duration) (later : ε) (message name payload : Reply) (c : String),
        (server.listen connection (maxWait.max Subscription.shortestWait) Subscription.isWanted
          later).1 = .reply message →
        message.message? = some (name, payload) → name.channel? = some c →
        Glob.selects (pattern index config.stateTable) c = true →
        ∃ key, c = channelStem index config.stateTable ++ key ∧
          (s.nextEvent server maxWait later).1.result =
            .ok (if key = "" then none else some { key, operation := payload.text?.getD "" }) := by
  have selected := selects_pattern (Config.check_eq_ok_iff.mp checked).stateTable index
  refine ⟨selected, fun c hc => ?_, fun session => ?_, ?_⟩
  · obtain ⟨key, rfl⟩ := (selected c).mp hc
    exact ⟨key, rfl, keyOfChannel?_append _ key⟩
  · exact (selected _).mpr ⟨session.text, (channelStem_append ..).symm⟩
  · intro ε server connection outside s started
    obtain ⟨rfl, asked⟩ := of_start started
    refine ⟨asked, fun maxWait later message name payload c heard parts_eq name_eq hc => ?_⟩
    obtain ⟨key, rfl⟩ := (selected c).mp hc
    refine ⟨key, rfl, ?_⟩
    rw [← judge_message parts_eq name_eq, ← heard]
    rfl

/-- A database that takes every subscription and tells of one change, of a session with special
    characters in its name. -/
def tellingServer : Server Unit where
  misnamed url := url
  connect _ m := (.error "refused", m)
  ask _ _ u := (.ok .nil, u)
  mismatched operation _ := operation
  listen _ _ _ u :=
    (.reply (.array
      [ .status "pmessage", .nil,
        .bulk (Utf8.encode (channel 61 (stateKey "TÄB^-" ⟨"a|[*]"⟩))), .status "hset" ]), u)

theorem pattern_selects_tellingServer :
    ({ stateTable := "TÄB^-" } : Config).check = .ok () ∧
    Glob.selects (pattern 61 "TÄB^-") (channel 61 (stateKey "TÄB^-" ⟨"a|[*]"⟩)) = true ∧
    ∃ s, (Subscription.start tellingServer ⟨7⟩ 61 "TÄB^-" ()).1.result = .ok s ∧
      (s.nextEvent tellingServer (.ofMillis 0) ()).1.result =
        .ok (some { key := "a|[*]", operation := "hset" }) := by
  have checked : ({ stateTable := "TÄB^-" } : Config).check = .ok () := rfl
  obtain ⟨-, -, all_keys, events⟩ := pattern_selects checked 61
  refine ⟨checked, all_keys ⟨"a|[*]"⟩, _, rfl, ?_⟩
  obtain ⟨key, c_eq, event⟩ := (events tellingServer ⟨7⟩ () _ rfl).2 (.ofMillis 0) () _ _ _ _
    rfl rfl (Utf8.decode?_encode _) (all_keys ⟨"a|[*]"⟩)
  obtain rfl : "a|[*]" = key := by
    rw [← channelStem_append] at c_eq
    exact (String.append_right_inj _).mp c_eq
  exact event

/-- A table that would not pass: its pattern leaves its own keys out and selects those of another
    table. -/
example :
    Glob.selects (pattern 6 "FLOW[AB]") (channel 6 (stateKey "FLOW[AB]" ⟨"s"⟩)) = false ∧
    Glob.selects (pattern 6 "FLOW[AB]") (channel 6 (stateKey "FLOWA" ⟨"s"⟩)) = true := by
  decide +kernel

end FlowDump.Store
