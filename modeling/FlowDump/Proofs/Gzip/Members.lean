import FlowDump.Gzip.Archive
import FlowDump.Proofs.Gzip.Consumption

/-!
# What an archive is

A member is a header, deflated data and a trailer, one after the other, and an archive is one member
or more.  Reading takes off exactly this: what is read is such a member at the front of the bytes,
and such a member is read whatever follows it.

* `Skips` — a step takes off the fields of one kind, all of them and nothing else.
* `Header`, `Deflated`, `Trailer`, `IsMember` — the parts of a member, and a member.
* `IsArchive` — members one after the other, and what they stand for.
* `member?_eq_some_iff`, `decompress?_eq_some_iff` — what is read is a member, or an archive.
* `Member`, `archive`, `payload` — members as they are read, and some of them joined.
-/

namespace FlowDump.Gzip

/-- A step over the front of some bytes takes off a `Field`, and nothing that is not one. -/
def Skips (skip : List UInt8 → Option (List UInt8)) (Field : List UInt8 → Prop) : Prop :=
  ∀ bytes rest, skip bytes = some rest ↔ ∃ field, Field field ∧ bytes = field ++ rest

/-! ### The fields of a header -/

/-- A field that starts with its length. -/
def Extra (field : List UInt8) : Prop :=
  ∃ a b data, data.length = word16 a b ∧ field = a :: b :: data

/-- A text, not too long, and the zero byte that ends it. -/
def ZeroEnded (field : List UInt8) : Prop :=
  ∃ text, (0 : UInt8) ∉ text ∧ text.length ≤ maxText ∧ field = text ++ [0]

/-- The check value, by `crc32`, of the header before it. -/
def HeaderCheck (header field : List UInt8) : Prop :=
  ∃ a b, word16 a b = (crc32 header).toNat % 65536 ∧ field = [a, b]

/-- A `Field` that is there only under a flag. -/
def Under (flag : Bool) (Field : List UInt8 → Prop) (field : List UInt8) : Prop :=
  if flag then Field field else field = []

/-- `skipExtra` takes off a field that starts with its length. -/
theorem skips_extra : Skips skipExtra Extra := by
  intro bytes rest
  constructor
  · intro h
    unfold skipExtra at h
    split at h
    · rename_i a b tail
      split at h
      · cases h
      · rename_i enough
        cases h
        rw [Nat.not_lt] at enough
        refine ⟨a :: b :: tail.take (word16 a b), ⟨a, b, _, List.length_take_of_le enough, rfl⟩, ?_⟩
        rw [List.cons_append, List.cons_append, List.take_append_drop]
    · cases h
  · rintro ⟨field, ⟨a, b, data, hdata, rfl⟩, rfl⟩
    have enough : ¬ (data ++ rest).length < word16 a b := by
      rw [List.length_append]
      omega
    rw [List.cons_append, List.cons_append, skipExtra, if_neg enough, List.drop_left' hdata]

/-- `skipText` takes off a text up to its zero byte. -/
theorem skips_text : Skips skipText ZeroEnded := by
  intro bytes rest
  constructor
  · intro h
    simp only [skipText] at h
    split at h
    · cases h
    · rename_i short
      split at h
      · cases h
      · rename_i zero tail hdrop
        cases h
        -- what follows the text is the first byte that does not belong to it
        have cut := List.takeWhile_append_dropWhile (p := fun b => decide (b ≠ 0)) (l := bytes)
        have after : bytes.dropWhile (fun b => decide (b ≠ 0)) = zero :: rest := by
          have dropped := congrArg (List.drop (bytes.takeWhile fun b => decide (b ≠ 0)).length) cut
          rw [List.drop_left] at dropped
          exact dropped.trans hdrop
        have is_zero : zero = 0 := by
          have := List.head?_dropWhile_not (fun b => decide (b ≠ 0)) bytes
          rw [after] at this
          simpa using this
        refine ⟨bytes.takeWhile (· ≠ 0) ++ [0], ⟨_, ?_, Nat.not_lt.mp short, rfl⟩, ?_⟩
        · intro hmem
          have := List.all_eq_true.mp (List.all_takeWhile (p := fun b => decide (b ≠ 0))) 0 hmem
          simp at this
        · rw [after, is_zero] at cut
          rw [List.append_assoc, List.singleton_append]
          exact cut.symm
  · rintro ⟨field, ⟨text, no_zero, short, rfl⟩, rfl⟩
    have before : ∀ b ∈ text, decide (b ≠ 0) = true := by
      intro b hb
      exact decide_eq_true fun h => no_zero (h ▸ hb)
    have upTo : (text ++ [0] ++ rest).takeWhile (· ≠ 0) = text := by
      rw [List.append_assoc, List.takeWhile_append_of_pos before]
      simp
    simp only [skipText, upTo]
    rw [if_neg (Nat.not_lt.mpr short), List.append_assoc, List.drop_left]
    rfl

/-- `skipHeaderCheck` takes off the check value of the bytes before it, and no other one. -/
theorem skips_headerCheck (header : List UInt8) :
    Skips (skipHeaderCheck header) (HeaderCheck header) := by
  intro bytes rest
  constructor
  · intro h
    unfold skipHeaderCheck at h
    split at h
    · rename_i a b tail
      split at h
      · rename_i matching
        cases h
        exact ⟨[a, b], ⟨a, b, matching, rfl⟩, rfl⟩
      · cases h
    · cases h
  · rintro ⟨field, ⟨a, b, matching, rfl⟩, rfl⟩
    exact if_pos matching

/-- Under a flag `skipIf` takes off a field, and without it nothing. -/
theorem Skips.under {skip : List UInt8 → Option (List UInt8)} {Field : List UInt8 → Prop}
    (h : Skips skip Field) (flag : Bool) : Skips (skipIf flag skip) (Under flag Field) := by
  intro bytes rest
  cases flag with
  | true => exact h bytes rest
  | false =>
    constructor
    · intro he
      cases he
      exact ⟨[], rfl, rfl⟩
    · rintro ⟨field, hfield, rfl⟩
      have none_there : field = [] := hfield
      rw [none_there]
      rfl

/-! ### Headers and trailers -/

/-- A header: ten bytes, the last six of which say how the data was made and are not looked at, and
    in this order a field under each of the `Flags`. -/
inductive Header : List UInt8 → Prop
  | intro {flags t₁ t₂ t₃ t₄ hint system : UInt8} {extra name comment check : List UInt8} :
    (Flags.ofByte flags).reserved = false →
    Under (Flags.ofByte flags).extra Extra extra →
    Under (Flags.ofByte flags).name ZeroEnded name →
    Under (Flags.ofByte flags).comment ZeroEnded comment →
    Under (Flags.ofByte flags).checksum
      (HeaderCheck ([0x1F, 0x8B, 8, flags, t₁, t₂, t₃, t₄, hint, system] ++
        (extra ++ (name ++ comment)))) check →
    Header ([0x1F, 0x8B, 8, flags, t₁, t₂, t₃, t₄, hint, system] ++
      (extra ++ (name ++ (comment ++ check))))

/-- A trailer: the check value, by `crc32`, and the length of what the data stands for. -/
def Trailer (payload trailer : List UInt8) : Prop :=
  ∃ a b c d e f g h, word32 a b c d = (crc32 payload).toNat ∧
    word32 e f g h = payload.length % (1 <<< 32) ∧ trailer = [a, b, c, d, e, f, g, h]

/-- What was read so far is what stands before the rest. -/
theorem take_consumed (read rest : List UInt8) :
    (read ++ rest).take ((read ++ rest).length - rest.length) = read := by
  rw [List.length_append, Nat.add_sub_cancel, List.take_left]

/-- `header?` takes off a `Header`: the fields of its flags follow each other in the order of
    `header?`. -/
theorem skips_header : Skips header? Header := by
  intro bytes rest
  constructor
  · intro h
    unfold header? at h
    split at h
    · rename_i flags t₁ t₂ t₃ t₄ hint system fields
      simp only at h
      split at h
      · cases h
      · rename_i unreserved
        obtain ⟨rest₁, h₁, h⟩ := Option.bind_eq_some_iff.mp h
        obtain ⟨rest₂, h₂, h⟩ := Option.bind_eq_some_iff.mp h
        obtain ⟨rest₃, h₃, h⟩ := Option.bind_eq_some_iff.mp h
        obtain ⟨extra, hextra, rfl⟩ := (skips_extra.under _ _ _).mp h₁
        obtain ⟨name, hname, rfl⟩ := (skips_text.under _ _ _).mp h₂
        obtain ⟨comment, hcomment, rfl⟩ := (skips_text.under _ _ _).mp h₃
        have read := take_consumed ([0x1F, 0x8B, 8, flags, t₁, t₂, t₃, t₄, hint, system] ++
          (extra ++ (name ++ comment))) rest₃
        simp only [List.cons_append, List.nil_append, List.append_assoc] at read
        rw [read] at h
        obtain ⟨check, hcheck, rfl⟩ := ((skips_headerCheck _).under _ _ _).mp h
        refine ⟨_, .intro (Bool.eq_false_iff.mpr unreserved) hextra hname hcomment hcheck, ?_⟩
        simp only [List.cons_append, List.nil_append, List.append_assoc]
    · cases h
  · rintro ⟨_, ⟨unreserved, hextra, hname, hcomment, hcheck⟩, rfl⟩
    rename_i flags t₁ t₂ t₃ t₄ hint system extra name comment check
    have read := take_consumed ([0x1F, 0x8B, 8, flags, t₁, t₂, t₃, t₄, hint, system] ++
      (extra ++ (name ++ comment))) (check ++ rest)
    simp only [List.cons_append, List.nil_append, List.append_assoc] at read hcheck ⊢
    simp only [header?, unreserved, Bool.false_eq_true, if_false]
    -- field by field, each one in front of those after it
    refine Option.bind_eq_some_iff.mpr
      ⟨_, (skips_extra.under _ _ _).mpr ⟨extra, hextra, rfl⟩, ?_⟩
    refine Option.bind_eq_some_iff.mpr
      ⟨_, (skips_text.under _ _ _).mpr ⟨name, hname, rfl⟩, ?_⟩
    refine Option.bind_eq_some_iff.mpr
      ⟨_, (skips_text.under _ _ _).mpr ⟨comment, hcomment, rfl⟩, ?_⟩
    rw [read]
    exact ((skips_headerCheck _).under _ _ _).mpr ⟨check, hcheck, rfl⟩

/-- `trailer?` takes off the check value and the length of a payload, and not those of another one.
    -/
theorem skips_trailer (payload : List UInt8) : Skips (trailer? payload) (Trailer payload) := by
  intro bytes rest
  constructor
  · intro h
    unfold trailer? at h
    split at h
    · rename_i a b c d e f g i tail
      split at h
      · rename_i matching
        cases h
        exact ⟨_, ⟨a, b, c, d, e, f, g, i, matching.1, matching.2, rfl⟩, rfl⟩
      · cases h
    · cases h
  · rintro ⟨trailer, ⟨a, b, c, d, e, f, g, i, hcrc, hlength, rfl⟩, rfl⟩
    exact if_pos ⟨hcrc, hlength⟩

/-! ### Members -/

/-- Deflated data up to its last byte, as `Inflate.run` reads it, and what it stands for. -/
def Deflated (data payload : List UInt8) : Prop :=
  ∃ pending, Inflate.run ⟨[], data⟩ = some (payload, ⟨pending, []⟩)

/-- A complete member and what it stands for: a `Header`, `Deflated` data and the `Trailer` of its
    payload. -/
def IsMember (member payload : List UInt8) : Prop :=
  ∃ header data trailer, Header header ∧ Deflated data payload ∧ Trailer payload trailer ∧
    member = header ++ (data ++ trailer)

/-- What `Inflate.run` reads is `Deflated` data at the front, and nothing after it is looked at. -/
theorem run_eq_some_iff {bytes payload rest : List UInt8} :
    (∃ pending, Inflate.run ⟨[], bytes⟩ = some (payload, ⟨pending, rest⟩)) ↔
      ∃ data, Deflated data payload ∧ bytes = data ++ rest := by
  constructor
  · rintro ⟨pending, h⟩
    obtain ⟨data, hdata, -, again⟩ := Inflate.uses_run _ _ _ h
    have alone := again []
    rw [List.append_nil] at alone
    exact ⟨data, ⟨pending, alone⟩, hdata⟩
  · rintro ⟨data, ⟨pending, h⟩, rfl⟩
    -- the run uses up a front of the bytes, and all of them where nothing follows
    obtain ⟨used, hused, -, again⟩ := Inflate.uses_run _ _ _ h
    have all_used : used = data := by
      rw [← List.append_nil used]
      exact hused.symm
    rw [all_used] at again
    exact ⟨pending, again rest⟩

/-- What `member?` reads is a complete member at the front, whatever follows it. -/
theorem member?_eq_some_iff {bytes payload rest : List UInt8} :
    member? bytes = some (payload, rest) ↔
      ∃ member, IsMember member payload ∧ bytes = member ++ rest := by
  constructor
  · intro h
    obtain ⟨body, hbody, h⟩ := Option.bind_eq_some_iff.mp h
    obtain ⟨⟨payload', bits⟩, hrun, h⟩ := Option.bind_eq_some_iff.mp h
    obtain ⟨rest', htrailer, h⟩ := Option.bind_eq_some_iff.mp h
    cases h
    -- header, data and trailer are taken off the front one after the other
    obtain ⟨header, hheader, rfl⟩ := (skips_header _ _).mp hbody
    obtain ⟨data, hdata, rfl⟩ := run_eq_some_iff.mp ⟨_, hrun⟩
    obtain ⟨trailer, htrailer, hbytes⟩ := (skips_trailer _ _ _).mp htrailer
    refine ⟨_, ⟨header, data, trailer, hheader, hdata, htrailer, rfl⟩, ?_⟩
    rw [hbytes, List.append_assoc, List.append_assoc]
  · rintro ⟨_, ⟨header, data, trailer, hheader, hdata, htrailer, rfl⟩, rfl⟩
    rw [List.append_assoc, List.append_assoc]
    obtain ⟨pending, hrun⟩ := run_eq_some_iff.mpr ⟨data, hdata, rfl⟩
    refine Option.bind_eq_some_iff.mpr ⟨_, (skips_header _ _).mpr ⟨header, hheader, rfl⟩, ?_⟩
    refine Option.bind_eq_some_iff.mpr ⟨_, hrun, ?_⟩
    exact Option.bind_eq_some_iff.mpr
      ⟨rest, (skips_trailer _ _ _).mpr ⟨trailer, htrailer, rfl⟩, rfl⟩

/-- `IsMember` says of bytes that `member?` reads them as a member with nothing after it. -/
theorem isMember_iff {member payload : List UInt8} :
    IsMember member payload ↔ member? member = some (payload, []) := by
  rw [member?_eq_some_iff]
  simp

/-- `member?` reads a member in the same way where more bytes follow it. -/
theorem member?_append {bytes payload rest : List UInt8}
    (h : member? bytes = some (payload, rest)) (extra : List UInt8) :
    member? (bytes ++ extra) = some (payload, rest ++ extra) := by
  obtain ⟨member, hmember, rfl⟩ := member?_eq_some_iff.mp h
  exact member?_eq_some_iff.mpr ⟨member, hmember, List.append_assoc ..⟩

/-- A complete member, and what it stands for, by `IsMember`. -/
structure Member where
  bytes : List UInt8
  payload : List UInt8
  complete : member? bytes = some (payload, [])

/-- A `Member` has bytes, for its header is not empty. -/
theorem Member.bytes_ne_nil (m : Member) : m.bytes ≠ [] := by
  intro h
  have := m.complete
  rw [h] at this
  cases this

/-! ### Archives -/

/-- The bytes of some `Member`s, one after the other. -/
def archive (members : List Member) : List UInt8 :=
  members.flatMap Member.bytes

/-- What some `Member`s stand for, one after the other. -/
def payload (members : List Member) : List UInt8 :=
  members.flatMap Member.payload

@[simp] theorem archive_cons (m : Member) (members : List Member) :
    archive (m :: members) = m.bytes ++ archive members :=
  List.flatMap_cons

/-- Every member has a byte at least, so that the bytes of an `archive` can be spent on its members.
    -/
theorem length_le_archive (members : List Member) : members.length ≤ (archive members).length := by
  induction members with
  | nil => exact Nat.zero_le _
  | cons m members ih =>
    have := List.length_pos_iff.mpr m.bytes_ne_nil
    rw [archive_cons, List.length_append, List.length_cons]
    omega

/-- An `archive` of a member or more has bytes. -/
theorem archive_ne_nil {members : List Member} (h : members ≠ []) : archive members ≠ [] := by
  have := length_le_archive members
  have := List.length_pos_iff.mpr h
  exact List.length_pos_iff.mp (by omega)

/-- `members?` reads the members of an `archive` one after the other. -/
theorem members?_archive {members : List Member} (some_member : members ≠ []) {fuel : Nat}
    (enough : members.length ≤ fuel) :
    members? fuel (archive members) = some (members.map Member.payload) := by
  induction members generalizing fuel with
  | nil => exact absurd rfl some_member
  | cons m members ih =>
    obtain ⟨fuel, rfl⟩ : ∃ n, fuel = n + 1 := ⟨fuel - 1, by simp at enough; omega⟩
    have first := member?_append m.complete (archive members)
    rw [archive_cons, members?, first]
    simp only [List.nil_append]
    by_cases hm : members = []
    · subst hm
      rfl
    · rw [if_neg (archive_ne_nil hm), ih hm (Nat.le_of_succ_le_succ enough), Option.map_some,
        List.map_cons]

/-- `decompress?` joins what the members of an `archive` stand for. -/
theorem decompress?_archive {members : List Member} (some_member : members ≠ []) :
    decompress? (archive members) = some (payload members) := by
  rw [decompress?, members?_archive some_member (length_le_archive members), Option.map_some,
    payload, List.flatMap_def]

/-- What `IsMember` one after the other, at least one, and what they stand for together. -/
inductive IsArchive : List UInt8 → List UInt8 → Prop
  | last {member payload : List UInt8} : IsMember member payload → IsArchive member payload
  | cons {member payload rest payloads : List UInt8} : IsMember member payload →
      IsArchive rest payloads → IsArchive (member ++ rest) (payload ++ payloads)

/-- What `IsArchive` holds of is the `archive` of some members. -/
theorem IsArchive.exists_members {bytes bytes' : List UInt8} (h : IsArchive bytes bytes') :
    ∃ members, members ≠ [] ∧ archive members = bytes ∧ payload members = bytes' := by
  induction h with
  | last hmember =>
    refine ⟨[⟨_, _, isMember_iff.mp hmember⟩], List.cons_ne_nil _ _, ?_, ?_⟩
    · exact List.append_nil _
    · exact List.append_nil _
  | cons hmember _ ih =>
    obtain ⟨members, -, rfl, rfl⟩ := ih
    exact ⟨⟨_, _, isMember_iff.mp hmember⟩ :: members, List.cons_ne_nil _ _, rfl, rfl⟩

/-- What `members?` reads to the end `IsArchive`, by one member after the other. -/
theorem isArchive_of_members? {fuel : Nat} {bytes : List UInt8} {payloads : List (List UInt8)}
    (h : members? fuel bytes = some payloads) : IsArchive bytes payloads.flatten := by
  induction fuel generalizing bytes payloads with
  | zero => cases h
  | succ fuel ih =>
    rw [members?] at h
    cases hm : member? bytes with
    | none =>
      rw [hm] at h
      cases h
    | some read =>
      obtain ⟨payload, rest⟩ := read
      rw [hm] at h
      obtain ⟨member, hmember, rfl⟩ := member?_eq_some_iff.mp hm
      simp only at h
      -- the bytes end behind the member, or more members are read from what is left
      split at h
      · rename_i at_end
        cases h
        rw [at_end, List.append_nil, List.flatten_singleton]
        exact .last hmember
      · obtain ⟨payloads', hrest, rfl⟩ := Option.map_eq_some_iff.mp h
        exact .cons hmember (ih hrest)

/-- `decompress?` reads what `IsArchive` holds of, all of it, and nothing else. -/
theorem decompress?_eq_some_iff {bytes bytes' : List UInt8} :
    decompress? bytes = some bytes' ↔ IsArchive bytes bytes' := by
  constructor
  · intro h
    obtain ⟨payloads, hpayloads, rfl⟩ := Option.map_eq_some_iff.mp h
    exact isArchive_of_members? hpayloads
  · intro h
    obtain ⟨members, some_member, rfl, rfl⟩ := h.exists_members
    exact decompress?_archive some_member

/-- What `IsArchive` twice, one after the other, is one, of both payloads. -/
theorem IsArchive.append {bytes₁ bytes₂ payload₁ payload₂ : List UInt8}
    (h₁ : IsArchive bytes₁ payload₁) (h₂ : IsArchive bytes₂ payload₂) :
    IsArchive (bytes₁ ++ bytes₂) (payload₁ ++ payload₂) := by
  induction h₁ with
  | last hmember => exact .cons hmember h₂
  | cons hmember _ ih =>
    rw [List.append_assoc, List.append_assoc]
    exact .cons hmember ih

/-- What does not begin with a member is no archive, and `decompress?` has nothing. -/
theorem decompress?_of_broken {bytes : List UInt8} (h : member? bytes = none) :
    decompress? bytes = none := by
  rw [decompress?]
  cases bytes.length with
  | zero => rfl
  | succ fuel => rw [members?, h, Option.map_none]

/-- What follows a member is an archive itself, or `decompress?` has nothing. -/
theorem decompress?_cons {bytes payload rest : List UInt8}
    (h : member? bytes = some (payload, rest)) (more : rest ≠ []) :
    decompress? bytes = (decompress? rest).map (payload ++ ·) := by
  apply Option.ext
  intro bytes'
  rw [decompress?_eq_some_iff, Option.map_eq_some_iff]
  constructor
  · intro whole
    -- a member can be read in one way only, so an archive that begins with it goes on behind it
    cases whole with
    | last hmember =>
      rw [isMember_iff.mp hmember] at h
      cases h
      exact absurd rfl more
    | cons hmember hrest =>
      rw [member?_eq_some_iff.mpr ⟨_, hmember, rfl⟩] at h
      cases h
      exact ⟨_, decompress?_eq_some_iff.mpr hrest, rfl⟩
  · rintro ⟨payloads, hrest, rfl⟩
    obtain ⟨member, hmember, rfl⟩ := member?_eq_some_iff.mp h
    exact .cons hmember (decompress?_eq_some_iff.mp hrest)

end FlowDump.Gzip
