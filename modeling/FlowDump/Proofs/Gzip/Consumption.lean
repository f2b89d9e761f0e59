import FlowDump.Gzip.Inflate

/-!
# What a reader uses up

A reader of compressed data looks at the bytes that it uses up and at nothing after them.  So what
it reads from them it reads again, whatever comes after them, and also where nothing does.

* `Bits.Uses` — a reader uses up some bytes and at least so many bits, and looks no further;
  `Uses.bind` composes it along the steps of a reader.
* `Bits.Suffices` — a loop that has less to spend reads the same as long as that is no less than the
  bits before it.
* `Inflate.uses_run` — deflated data is read in the same way whatever follows it.
-/

namespace FlowDump.Gzip

variable {α β : Type}

namespace Bits

/-- What a reader reads rests on the bytes that it uses up: from these alone it reads the same,
    whatever follows.  At least `least` bits are gone after it. -/
def Uses (least : Nat) (r : Reader α) : Prop :=
  ∀ (s s' : Bits) (a : α), r s = some (a, s') →
    ∃ used, s.bytes = used ++ s'.bytes ∧ s'.size + least ≤ s.size ∧
      ∀ rest, r ⟨s.pending, used ++ rest⟩ = some (a, ⟨s'.pending, rest⟩)

namespace Uses

/-! ### Steps -/

/-- A reader that `Uses` some bits is also one of which nothing is asked. -/
theorem weaken {least : Nat} {r : Reader α} (h : Uses least r) : Uses 0 r := by
  intro s s' a hr
  obtain ⟨used, hbytes, hsize, again⟩ := h s s' a hr
  exact ⟨used, hbytes, by omega, again⟩

theorem pure (a : α) : Uses 0 (Pure.pure a) := by
  intro s s' b h
  cases h
  exact ⟨[], rfl, Nat.le_refl _, fun rest => rfl⟩

theorem never (least : Nat) : Uses least (fun _ => none : Reader α) := by
  intro s s' a h
  cases h

/-- One step after the other `Uses` what the first one does. -/
theorem bind {least : Nat} {r : Reader α} {f : α → Reader β} (hr : Uses least r)
    (hf : ∀ a, Uses 0 (f a)) : Uses least (r >>= f) := by
  intro s t b h
  obtain ⟨⟨a, s'⟩, first, second⟩ := Option.bind_eq_some_iff.mp h
  obtain ⟨used, hused, hsize, again⟩ := hr s s' a first
  obtain ⟨used', hused', hsize', again'⟩ := hf a s' t b second
  refine ⟨used ++ used', ?_, by omega, ?_⟩
  · rw [hused, hused', List.append_assoc]
  · intro rest
    rw [List.append_assoc]
    exact Option.bind_eq_some_iff.mpr ⟨_, again (used' ++ rest), again' rest⟩

/-- Of two readers, the one that is chosen `Uses` what both of them do. -/
theorem ite (c : Prop) [Decidable c] {least : Nat} {r t : Reader α} (hr : Uses least r)
    (ht : Uses least t) : Uses least (if c then r else t) := by
  split
  · exact hr
  · exact ht

/-- `Bits.bit` takes one bit off what is pending, or off the next byte. -/
theorem bit : Uses 1 Bits.bit := by
  intro s s' b h
  obtain ⟨pending, bytes⟩ := s
  cases pending with
  | cons b' pending =>
    cases h
    refine ⟨[], rfl, ?_, fun rest => rfl⟩
    simp only [size, List.length_cons]
    omega
  | nil =>
    cases bytes with
    | nil => cases h
    | cons x bytes =>
      cases h
      -- a byte is begun: seven bits of it are left
      refine ⟨[x], rfl, ?_, fun rest => rfl⟩
      simp only [size, ofByte, List.drop_succ_cons, List.drop_zero, List.length_cons,
        List.length_nil]
      omega

/-- `Bits.number` reads its bits one by one. -/
theorem number (width : Nat) : Uses 0 (Bits.number width) := by
  induction width with
  | zero => exact pure 0
  | succ width ih => exact bit.weaken.bind fun b => ih.bind fun n => pure _

/-- `Bits.align` drops pending bits, and no bytes. -/
theorem align : Uses 0 Bits.align := by
  intro s s' a h
  cases h
  refine ⟨[], rfl, ?_, fun rest => rfl⟩
  simp only [size, List.length_nil]
  omega

/-- `Bits.take` takes whole bytes off the front. -/
theorem take (n : Nat) : Uses 0 (Bits.take n) := by
  intro s s' bytes h
  simp only [Bits.take] at h
  split at h
  · cases h
  · rename_i enough
    cases h
    rw [Nat.not_lt] at enough
    refine ⟨s.bytes.take n, (List.take_append_drop ..).symm, ?_, ?_⟩
    · simp only [size, List.length_drop]
      omega
    · intro rest
      have taken : (s.bytes.take n).length = n := List.length_take_of_le enough
      have longer : ¬ (s.bytes.take n ++ rest).length < n := by
        rw [List.length_append, taken]
        omega
      rw [Bits.take, if_neg longer, List.take_left' taken, List.drop_left' taken]

end Uses

/-- Where at most `bits` bits are left, `r'` reads all that `r` reads.  The two are one loop with
    more and with less to spend. -/
def Suffices (bits : Nat) (r r' : Reader α) : Prop :=
  ∀ (s : Bits) (x : α × Bits), s.size ≤ bits → r s = some x → r' s = some x

namespace Suffices

theorem refl (bits : Nat) (r : Reader α) : Suffices bits r r :=
  fun _ _ _ h => h

theorem never (bits : Nat) (r : Reader α) : Suffices bits (fun _ => none) r := by
  intro s x hs h
  cases h

/-- `Suffices` goes through a choice that both loops make alike. -/
theorem ite (c : Prop) [Decidable c] {bits : Nat} {r r' t t' : Reader α}
    (hr : Suffices bits r r') (ht : Suffices bits t t') :
    Suffices bits (if c then r else t) (if c then r' else t') := by
  split
  · exact hr
  · exact ht

/-- `Suffices` goes through a sequence: what the first step uses up, the later ones need not have to
    spend. -/
theorem bind {least bits : Nat} {r r' : Reader α} {f f' : α → Reader β}
    (hr : Suffices (bits + least) r r') (uses : Uses least r)
    (hf : ∀ a, Suffices bits (f a) (f' a)) : Suffices (bits + least) (r >>= f) (r' >>= f') := by
  intro s x hs h
  obtain ⟨⟨a, s'⟩, first, second⟩ := Option.bind_eq_some_iff.mp h
  obtain ⟨-, -, hsize, -⟩ := uses s s' a first
  have left : s'.size ≤ bits := by omega
  exact Option.bind_eq_some_iff.mpr ⟨(a, s'), hr s _ hs first, hf a s' x left second⟩

end Suffices

end Bits

open Bits

/-! ### Codes -/

/-- `Codebook.walk` looks at a bit before it can end. -/
theorem Codebook.uses_walk (symbols : Array Nat) (counts : List Nat) (code first index : Nat) :
    Uses 1 (walk symbols counts code first index) := by
  induction counts generalizing code first index with
  | nil => exact .never 1
  | cons count rest ih =>
    refine .bind .bit fun b => ?_
    refine .ite _ ?_ (ih _ _ _).weaken
    split
    · exact .pure _
    · exact .never 0

theorem Codebook.uses_read (c : Codebook) : Uses 1 c.read :=
  uses_walk _ _ _ _ _

namespace Inflate

theorem uses_numbers (width n : Nat) : Uses 0 (numbers width n) := by
  induction n with
  | zero => exact .pure []
  | succ n ih =>
    refine .bind (.number width) fun x => ?_
    exact .bind ih fun rest => .pure (x :: rest)

theorem uses_readExtra (table : Array (Nat × Nat)) (symbol : Nat) :
    Uses 0 (readExtra table symbol) := by
  unfold readExtra
  split
  · exact .never 0
  · exact .bind (.number _) fun n => .pure _

/-- `wordLengths` reads the lengths of code words through a code themselves, symbol by symbol. -/
theorem uses_wordLengths (code : Codebook) (total fuel : Nat) (known : List Nat) :
    Uses 0 (wordLengths code total fuel known) := by
  induction fuel generalizing known with
  | zero => exact .never 0
  | succ fuel ih =>
    refine .ite _ (.pure _) (.ite _ (.never 0) ?_)
    refine .bind code.uses_read.weaken fun s => ?_
    refine .ite _ (ih _) (.ite _ ?_ (.ite _ ?_ ?_))
    · split
      · exact .never 0
      · exact .bind (.number 2) fun n => ih _
    · exact .bind (.number 3) fun n => ih _
    · exact .bind (.number 7) fun n => ih _

/-- The header of a block with codes of its own is numbers and `wordLengths`. -/
theorem uses_codes : Uses 0 codes := by
  refine .bind (.number 5) fun literals => ?_
  refine .bind (.number 5) fun distances => ?_
  refine .bind (.number 4) fun given => ?_
  refine .ite _ (.never 0) ?_
  refine .bind (uses_numbers 3 (given + 4)) fun orderLengths => ?_
  split
  · exact .never 0
  · refine .bind (uses_wordLengths _ _ _ []) fun lengths => ?_
    split
    · exact .pure _
    · exact .never 0

/-! ### Blocks -/

/-- A run of `symbols` ends with a symbol, and so has used up a bit at least. -/
theorem uses_symbols (literals distances : Codebook) (fuel : Nat) (out : Array UInt8) :
    Uses 1 (symbols literals distances fuel out) := by
  induction fuel generalizing out with
  | zero => exact .never 1
  | succ fuel ih =>
    refine .bind literals.uses_read fun s => ?_
    refine .ite _ (ih _).weaken (.ite _ (.pure out) ?_)
    refine .bind (uses_readExtra lengthTable (s - 257)) fun length => ?_
    refine .bind distances.uses_read.weaken fun d => ?_
    exact .bind (uses_readExtra distanceTable d) fun distance => (ih _).weaken

/-- A `stored` block is aligned, and its bytes are counted in front. -/
theorem uses_stored (out : Array UInt8) : Uses 0 (stored out) := by
  refine .bind .align fun _ => ?_
  refine .bind (.number 16) fun size => ?_
  refine .bind (.number 16) fun _ => ?_
  exact .ite _ (.never 0) (.bind (.take size) fun _ => .pure _)

/-- The `body` of a block of any type rests on what it uses up. -/
theorem uses_body (fuel type : Nat) (out : Array UInt8) : Uses 0 (body fuel type out) := by
  unfold body
  split
  · exact uses_stored out
  · exact (uses_symbols _ _ fuel out).weaken
  · exact .bind uses_codes fun codes => (uses_symbols _ _ fuel out).weaken
  · exact .never 0

/-- The `blocks` end with one that is marked as the last, which takes a bit at least. -/
theorem uses_blocks (fuel rounds : Nat) (out : Array UInt8) : Uses 1 (blocks fuel rounds out) := by
  induction rounds generalizing out with
  | zero => exact .never 1
  | succ rounds ih =>
    refine .bind .bit fun last => ?_
    refine .bind (.number 2) fun type => ?_
    refine .bind (uses_body fuel type out) fun out' => ?_
    exact .ite _ (.pure out') (ih out').weaken

/-! ### What loops have to spend -/

/-- A symbol takes a bit at least, so that `symbols` needs no more steps than there are bits. -/
theorem suffices_symbols (literals distances : Codebook) {fuel fuel' bits : Nat}
    (enough : bits ≤ fuel') (out : Array UInt8) :
    Suffices bits (symbols literals distances fuel out) (symbols literals distances fuel' out) := by
  induction fuel generalizing fuel' bits out with
  | zero => exact .never _ _
  | succ fuel ih =>
    cases bits with
    | zero =>
      -- no symbol is read from no bits
      intro s x hs h
      obtain ⟨-, -, hsize, -⟩ := uses_symbols literals distances (fuel + 1) out s x.2 x.1 h
      omega
    | succ bits =>
      obtain ⟨fuel', rfl⟩ : ∃ n, fuel' = n + 1 := ⟨fuel' - 1, by omega⟩
      have fewer : bits ≤ fuel' := Nat.le_of_succ_le_succ enough
      refine .bind (.refl _ _) literals.uses_read fun s => ?_
      refine .ite _ (ih fewer _) (.ite _ (.refl _ _) ?_)
      refine .bind (.refl _ _) (uses_readExtra lengthTable (s - 257)) fun length => ?_
      refine .bind (.refl _ _) distances.uses_read.weaken fun d => ?_
      exact .bind (.refl _ _) (uses_readExtra distanceTable d) fun distance => ih fewer _

/-- The `body` of a block needs no more steps than its `symbols`. -/
theorem suffices_body {fuel fuel' bits : Nat} (enough : bits ≤ fuel') (type : Nat)
    (out : Array UInt8) : Suffices bits (body fuel type out) (body fuel' type out) := by
  unfold body
  split
  · exact .refl _ _
  · exact suffices_symbols _ _ enough out
  · exact .bind (.refl _ _) uses_codes fun codes => suffices_symbols _ _ enough out
  · exact .never _ _

/-- A block takes a bit at least, and so does each symbol in it: `blocks` needs no more rounds than
    there are bits. -/
theorem suffices_blocks {fuel fuel' rounds rounds' bits : Nat} (enough : bits ≤ fuel')
    (enough_rounds : bits ≤ rounds') (out : Array UInt8) :
    Suffices bits (blocks fuel rounds out) (blocks fuel' rounds' out) := by
  induction rounds generalizing rounds' bits out with
  -- without a round nothing is read, so there is nothing to read in the same way
  | zero => exact .never _ _
  | succ rounds ih =>
    cases bits with
    | zero =>
      intro s x hs h
      -- a block takes a bit, and there is none
      obtain ⟨-, -, hsize, -⟩ := uses_blocks fuel (rounds + 1) out s x.2 x.1 h
      omega
    | succ bits =>
      obtain ⟨rounds', rfl⟩ : ∃ n, rounds' = n + 1 := ⟨rounds' - 1, by omega⟩
      have fewer : bits ≤ fuel' := Nat.le_of_succ_le enough
      refine .bind (.refl _ _) .bit fun last => ?_
      refine .bind (.refl _ _) (.number 2) fun type => ?_
      have same : Suffices (bits + 0) (body fuel type out) (body fuel' type out) :=
        suffices_body fewer type out
      refine .bind same (uses_body fuel type out) fun out' => ?_
      exact .ite _ (.refl _ _) (ih fewer (Nat.le_of_succ_le_succ enough_rounds) out')

/-- `Inflate.run` reads deflated data in the same way whatever follows it.  The loops have as much
    to spend as there are bits, and what they do not use up they do not need. -/
theorem uses_run : Uses 0 run := by
  intro s s' payload h
  obtain ⟨⟨out, left⟩, hblocks, he⟩ := Option.map_eq_some_iff.mp h
  cases he
  obtain ⟨used, hbytes, hsize, again⟩ := (uses_blocks _ _ _).weaken s s' out hblocks
  refine ⟨used, hbytes, hsize, ?_⟩
  intro rest
  -- with more bytes behind there is more to spend, but not more that is needed
  have same := suffices_blocks (Nat.le_refl _) (Nat.le_refl _) #[] _ _ (Nat.le_refl _) (again rest)
  exact Option.map_eq_some_iff.mpr ⟨_, same, rfl⟩

end Inflate

end FlowDump.Gzip
