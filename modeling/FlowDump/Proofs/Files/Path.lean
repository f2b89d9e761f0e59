import FlowDump.Files.Path

/-!
# The parts of a path, and its last name

A path is cut at its slashes.  What stands behind its last name, such as slashes and single dots,
is idle: it adds nothing to the names that the path leads through.

* `pieces` — the parts of a text as characters; `pieces_append` cuts a text in two.
* `Idle` — a text whose parts are single dots.
* `Trimmed`, `Ends` — a text cut before what is idle, and before its last part;
  `Ends.splitName?_eq` says that the last part is the one that is found.
* `parent?_spec` — a parent leads through the same names but the last.
* `withExtension_eq` — another extension changes the last name only.
-/

namespace FlowDump

namespace Text

/-- `split` gives the parts on both sides of a mark. -/
theorem split_append (mark : Char) (a b : List Char) :
    split mark (a ++ mark :: b) = split mark a ++ split mark b := by
  induction a with
  | nil => simp [split]
  | cons c a ih =>
    by_cases hc : c = mark
    · simp [split, hc, ih]
    · obtain ⟨part, parts, h⟩ := List.exists_cons_of_ne_nil (split_ne_nil mark a)
      rw [h, List.cons_append] at ih
      simp [split, hc, h, ih]

/-- `split` leaves a text without marks in one part. -/
theorem split_of_notMem {mark : Char} {a : List Char} (h : mark ∉ a) : split mark a = [a] := by
  induction a with
  | nil => rfl
  | cons c a ih =>
    rw [List.mem_cons, not_or] at h
    simp [split, Ne.symm h.1, ih h.2]

end Text

namespace Path

/-! ### Parts -/

/-- The parts of a text between slashes, by `split`, empty ones left out. -/
def pieces (s : List Char) : List (List Char) :=
  (Text.split '/' s).filter (· ≠ [])

/-- `Path.parts` are the `pieces` of a path, as texts. -/
theorem parts_eq (path : String) : parts path = (pieces path.toList).map String.ofList := rfl

@[simp] theorem pieces_nil : pieces [] = [] := rfl

/-- A slash parts the `pieces` before it from those behind it. -/
theorem pieces_append_slash (a b : List Char) : pieces (a ++ '/' :: b) = pieces a ++ pieces b := by
  rw [pieces, Text.split_append, List.filter_append, ← pieces, ← pieces]

@[simp] theorem pieces_slash (b : List Char) : pieces ('/' :: b) = pieces b :=
  pieces_append_slash [] b

/-- A text without slashes is one of its `pieces`, unless it is empty. -/
theorem pieces_of_notMem {a : List Char} (h : '/' ∉ a) (ne : a ≠ []) : pieces a = [a] := by
  rw [pieces, Text.split_of_notMem h, List.filter_cons_of_pos (by simpa using ne), List.filter_nil]

/-- A text after which a new part starts. -/
def Opens (a : List Char) : Prop := a = [] ∨ ∃ front, a = front ++ ['/']

/-- A text that carries on no part. -/
def Closes (b : List Char) : Prop := b = [] ∨ ∃ rest, b = '/' :: rest

/-- The `pieces` of a text may be taken apart wherever no part is cut. -/
theorem pieces_append {a b : List Char} (h : Opens a ∨ Closes b) :
    pieces (a ++ b) = pieces a ++ pieces b := by
  rcases h with (rfl | ⟨front, rfl⟩) | rfl | ⟨rest, rfl⟩
  · simp
  · have front_eq : pieces (front ++ ['/']) = pieces front := by
      rw [pieces_append_slash, pieces_nil, List.append_nil]
    rw [front_eq, List.append_assoc, List.singleton_append, pieces_append_slash]
  · simp
  · rw [pieces_append_slash, pieces_slash]

/-- Where a text `Closes`, its front does. -/
theorem Closes.of_append {a b : List Char} (h : Closes (a ++ b)) : Closes a := by
  cases a with
  | nil => exact .inl rfl
  | cons c a =>
    rcases h with h | ⟨rest, h⟩
    · cases h
    · injection h with hc _
      exact .inr ⟨a, by rw [hc]⟩

/-! ### Idle texts -/

/-- A text whose `pieces` are single dots. -/
def Idle (s : List Char) : Prop := ∀ p ∈ pieces s, p = ['.']

theorem idle_nil : Idle [] := by simp [Idle]

theorem idle_slash {s : List Char} : Idle ('/' :: s) ↔ Idle s := by
  rw [Idle, Idle, pieces_slash]

/-- A character other than a slash starts a part of an `Idle` text, which goes on unless a slash or
    the end follows. -/
theorem idle_cons {c : Char} {s : List Char} (hc : c ≠ '/') :
    Idle (c :: s) ↔ c = '.' ∧ Closes s ∧ Idle s := by
  cases s with
  | nil =>
    rw [Idle, pieces_of_notMem (by simpa using Ne.symm hc) (by simp)]
    simp [Closes, idle_nil]
  | cons d s =>
    obtain ⟨part, parts, h⟩ := List.exists_cons_of_ne_nil (Text.split_ne_nil '/' s)
    -- the part ends behind this character just if a slash follows
    by_cases hd : d = '/'
    · subst hd
      rw [idle_slash, Idle, ← List.singleton_append, pieces_append_slash,
        pieces_of_notMem (by simpa using Ne.symm hc) (by simp)]
      simp [Closes, Idle]
    · -- two characters in one part
      constructor
      · intro idle
        have first : c :: d :: part ∈ pieces (c :: d :: s) := by
          simp [pieces, Text.split, hc, hd, h]
        cases idle _ first
      · rintro ⟨-, closes | ⟨rest, closes⟩, -⟩
        · cases closes
        · injection closes with he _
          exact absurd he hd

/-- Two `Idle` texts make one where the second one starts a part of its own. -/
theorem Idle.append {a b : List Char} (ha : Idle a) (hb : Idle b) (h : Closes b) :
    Idle (a ++ b) := by
  intro p hp
  rw [pieces_append (.inr h), List.mem_append] at hp
  exact hp.elim (ha p) (hb p)

/-- The front of an `Idle` text is `Idle`. -/
theorem Idle.of_append {a b : List Char} (h : Idle (a ++ b)) : Idle a := by
  induction a with
  | nil => exact idle_nil
  | cons c a ih =>
    by_cases hc : c = '/'
    · subst hc
      exact idle_slash.mpr (ih (idle_slash.mp h))
    · obtain ⟨dot, closes, idle⟩ := (idle_cons hc).mp h
      exact (idle_cons hc).mpr ⟨dot, closes.of_append, ih idle⟩

/-- A text without `pieces` has slashes only. -/
theorem eq_slash_of_mem {s : List Char} (h : pieces s = []) : ∀ c ∈ s, c = '/' := by
  induction s with
  | nil => simp
  | cons d s ih =>
    by_cases hd : d = '/'
    · subst hd
      rw [pieces_slash] at h
      simpa using ih h
    · obtain ⟨part, parts, hs⟩ := List.exists_cons_of_ne_nil (Text.split_ne_nil '/' s)
      simp [pieces, Text.split, hd, hs] at h

/-! ### The end of a path -/

/-- A text without slashes that counts as a part everywhere in a path. -/
structure IsPart (part : List Char) : Prop where
  no_slash : '/' ∉ part
  ne_nil : part ≠ []
  ne_dot : part ≠ ['.']

theorem IsPart.pieces_eq {part : List Char} (h : IsPart part) : pieces part = [part] :=
  pieces_of_notMem h.no_slash h.ne_nil

/-- What stands before and after the last mark; the mark is left with what stands before it. -/
theorem exists_last (mark : Char) (s : List Char) : ∃ front part, s = front ++ part ∧
    (front = [] ∨ ∃ g, front = g ++ [mark]) ∧ mark ∉ part := by
  induction s with
  | nil => exact ⟨[], [], rfl, .inl rfl, by simp⟩
  | cons c s ih =>
    obtain ⟨front, part, rfl, rfl | ⟨g, rfl⟩, no_mark⟩ := ih
    · by_cases hc : c = mark
      · exact ⟨[c], part, rfl, .inr ⟨[], by rw [hc]; rfl⟩, no_mark⟩
      · exact ⟨[], c :: part, rfl, .inl rfl, by simp [no_mark, Ne.symm hc]⟩
    · exact ⟨c :: g ++ [mark], part, by simp, .inr ⟨c :: g, rfl⟩, no_mark⟩

/-- A text given back to front is cut at its last mark. -/
theorem while_reverse (mark : Char) {front part : List Char}
    (ends : front = [] ∨ ∃ g, front = g ++ [mark]) (h : mark ∉ part) :
    (front ++ part).reverse.dropWhile (· ≠ mark) = front.reverse ∧
      (front ++ part).reverse.takeWhile (· ≠ mark) = part.reverse := by
  have others : ∀ c ∈ part.reverse, decide (c ≠ mark) = true := by
    intro c hc
    rw [decide_eq_true_eq]
    rintro rfl
    exact h (List.mem_reverse.mp hc)
  rw [List.reverse_append, List.dropWhile_append_of_pos others,
    List.takeWhile_append_of_pos others]
  rcases ends with rfl | ⟨g, rfl⟩ <;> simp

/-- `splitLast` cuts a text, given back to front, before its last part. -/
theorem splitLast_append {front part : List Char} (opens : Opens front) (h : '/' ∉ part) :
    splitLast (front ++ part).reverse = (front.reverse, part.reverse) := by
  rw [splitLast, (while_reverse '/' opens h).1, (while_reverse '/' opens h).2]

/-- A text cut in two: what stands behind is `Idle`, and what stands in front ends in a part. -/
structure Trimmed (s kept junk : List Char) : Prop where
  eq : s = kept ++ junk
  idle : Idle junk
  ends : kept = [] ∨
    (Closes junk ∧ ∃ front part, kept = front ++ part ∧ Opens front ∧ IsPart part)

/-- Nothing and a single dot are `Idle`. -/
theorem idle_of_dot {part : List Char} (h : part = [] ∨ part = ['.']) : Idle part := by
  rcases h with rfl | rfl
  · exact idle_nil
  · exact (idle_cons (by decide)).mpr ⟨rfl, .inl rfl, idle_nil⟩

/-- One more `Idle` part may stand behind. -/
theorem Trimmed.append_slash {s kept junk part : List Char} (h : Trimmed s kept junk)
    (idle : Idle part) : Trimmed (s ++ '/' :: part) kept (junk ++ '/' :: part) := by
  refine ⟨by rw [h.eq, List.append_assoc], h.idle.append (idle_slash.mpr idle) (.inr ⟨part, rfl⟩),
    h.ends.imp_right fun ⟨closes, rest⟩ => ⟨?_, rest⟩⟩
  rcases closes with rfl | ⟨t, rfl⟩
  · exact .inr ⟨part, rfl⟩
  · exact .inr ⟨t ++ '/' :: part, rfl⟩

/-- `trimEnd` takes an empty part and a single dot off the end, with the slash before it. -/
theorem trimEnd_slash (fuel : Nat) (s : List Char) {part : List Char}
    (h : part = [] ∨ part = ['.']) :
    trimEnd (fuel + 1) (s ++ '/' :: part).reverse = trimEnd fuel s.reverse := by
  have opens : Opens (s ++ ['/']) := .inr ⟨s, rfl⟩
  have cut : s ++ '/' :: part = s ++ ['/'] ++ part := by simp
  rcases h with rfl | rfl
  · rw [cut, trimEnd, splitLast_append opens (by simp)]
    simp
  · rw [cut, trimEnd, splitLast_append opens (by decide)]
    simp

/-- `trimEnd` stops at what `IsPart`. -/
theorem trimEnd_part (fuel : Nat) {front part : List Char} (opens : Opens front)
    (h : IsPart part) : trimEnd (fuel + 1) (front ++ part).reverse = (front ++ part).reverse := by
  have ne_nil := h.ne_nil
  have ne_dot := h.ne_dot
  rw [trimEnd, splitLast_append opens h.no_slash]
  split
  · rename_i he
    simp at he
    exact absurd he.2 ne_nil
  · rename_i he
    simp at he
    exact absurd he.2 ne_dot
  · rfl

/-- What `trimEnd` takes off the end of a text is `Idle`, and what is left ends in a part. -/
theorem trimEnd_reverse {fuel : Nat} {s : List Char} (h : s.length ≤ fuel) :
    ∃ kept junk, Trimmed s kept junk ∧ trimEnd fuel s.reverse = kept.reverse := by
  induction fuel generalizing s with
  | zero =>
    obtain rfl := List.eq_nil_of_length_eq_zero (Nat.le_zero.mp h)
    exact ⟨[], [], ⟨rfl, idle_nil, .inl rfl⟩, rfl⟩
  | succ fuel ih =>
    -- the last part is taken off with its slash if it leads nowhere, and stays otherwise
    obtain ⟨front, part, rfl, opens, no_slash⟩ := exists_last '/' s
    by_cases dot : part = [] ∨ part = ['.']
    · rcases opens with rfl | ⟨g, rfl⟩
      · -- nothing but the idle part is there
        refine ⟨[], part, ⟨rfl, idle_of_dot dot, .inl rfl⟩, ?_⟩
        rcases dot with rfl | rfl
        · simp [trimEnd, splitLast]
        · cases fuel <;> simp [trimEnd, splitLast]
      · rw [List.append_assoc, List.singleton_append] at h ⊢
        obtain ⟨kept, junk, trimmed, kept_eq⟩ := ih (s := g) (by simp at h; omega)
        exact ⟨kept, _, trimmed.append_slash (idle_of_dot dot),
          (trimEnd_slash fuel g dot).trans kept_eq⟩
    · rw [not_or] at dot
      have isPart : IsPart part := ⟨no_slash, dot.1, dot.2⟩
      exact ⟨front ++ part, [], ⟨(List.append_nil _).symm, idle_nil,
        .inr ⟨.inl rfl, front, part, rfl, opens, isPart⟩⟩, trimEnd_part fuel opens isPart⟩

/-! ### The start of a path -/

/-- A text that a body may follow: it leads nowhere itself. -/
def Starts (s body : List Char) : Prop :=
  s = [] ∨ s = ['/'] ∨ (s = ['.'] ∧ Closes body)

/-- What follows the `start` of a path is a body that it may be put before. -/
theorem start_append (cs : List Char) :
    ∃ body, cs = start cs ++ body ∧ cs.drop (start cs).length = body ∧ Starts (start cs) body := by
  unfold start
  split
  · exact ⟨_, rfl, rfl, .inr (.inl rfl)⟩
  · exact ⟨[], rfl, rfl, .inr (.inr ⟨rfl, .inl rfl⟩)⟩
  · exact ⟨_, rfl, rfl, .inr (.inr ⟨rfl, .inr ⟨_, rfl⟩⟩)⟩
  · exact ⟨_, rfl, rfl, .inl rfl⟩

/-- What may follow a start may be cut short behind it. -/
theorem Starts.of_append {s a b : List Char} (h : Starts s (a ++ b)) : Starts s a :=
  h.imp_right (Or.imp_right fun ⟨dot, closes⟩ => ⟨dot, closes.of_append⟩)

/-- The names that a text leads through: its `pieces` without single dots. -/
def turns (s : List Char) : List (List Char) := (pieces s).filter (· ≠ ['.'])

/-- The `turns` of a text may be taken apart wherever no part is cut. -/
theorem turns_append {a b : List Char} (h : Opens a ∨ Closes b) :
    turns (a ++ b) = turns a ++ turns b := by
  rw [turns, pieces_append h, List.filter_append, ← turns, ← turns]

theorem Idle.turns_eq {s : List Char} (h : Idle s) : turns s = [] := by
  rw [turns, List.filter_eq_nil_iff]
  intro p hp
  simpa using h p hp

theorem IsPart.turns_eq {part : List Char} (h : IsPart part) : turns part = [part] := by
  rw [turns, h.pieces_eq, List.filter_cons_of_pos (by simpa using h.ne_dot), List.filter_nil]

/-- What `Starts` a body adds no turns to those of the body. -/
theorem Starts.turns_append {s body : List Char} (h : Starts s body) :
    turns (s ++ body) = turns body := by
  rcases h with rfl | rfl | ⟨rfl, closes⟩
  · rfl
  · rw [List.singleton_append, turns, pieces_slash, ← turns]
  · rw [Path.turns_append (.inr closes)]
    rfl

/-- The names that a path leads through: its `parts` without single dots. -/
def names (path : String) : List String :=
  (parts path).filter (· ≠ ".")

/-- The `names` of a path are its `turns`, as texts. -/
theorem names_eq (path : String) : names path = (turns path.toList).map String.ofList := by
  rw [names, parts_eq, List.filter_map, turns]
  congr 1
  refine List.filter_congr fun p _ => ?_
  have dot : String.ofList p = "." ↔ p = ['.'] := by
    rw [show "." = String.ofList ['.'] from rfl, String.ofList_inj]
  simp [dot]

/-! ### The last part -/

/-- `lastPart?` takes a path apart: its start, a front, its last part and something `Idle`.  If it
    finds none, the path is `Idle` after its start. -/
theorem lastPart?_spec (cs : List Char) :
    ∃ body, cs = start cs ++ body ∧ Starts (start cs) body ∧
      ((lastPart? cs = none ∧ Idle body) ∨
        ∃ front part junk, lastPart? cs = some (front.reverse, part) ∧
          body = front ++ part ++ junk ∧ Opens front ∧ IsPart part ∧ Closes junk ∧ Idle junk) := by
  obtain ⟨body, hcs, hdrop, starts⟩ := start_append cs
  obtain ⟨kept, junk, ⟨hbody, idle, ends⟩, trimmed⟩ := trimEnd_reverse (Nat.le_refl body.length)
  refine ⟨body, hcs, starts, ?_⟩
  simp only [lastPart?, hdrop, List.length_reverse, trimmed]
  -- nothing is left of an idle body; otherwise what is left ends in the last part
  rcases ends with rfl | ⟨closes, front, part, rfl, opens, isPart⟩
  · exact .inl ⟨rfl, by rwa [hbody]⟩
  · refine .inr ⟨front, part, junk, ?_, hbody, opens, isPart, closes, idle⟩
    have part_ne := isPart.ne_nil
    rw [splitLast_append opens isPart.no_slash]
    split
    · rename_i he
      simp at he
      exact absurd he.2 part_ne
    · rename_i he
      simp at he
      rw [← he.1, ← he.2, List.reverse_reverse]

/-- The `start` of a path says whether it is absolute. -/
theorem head?_eq_slash_iff (cs : List Char) : cs.head? = some '/' ↔ start cs = ['/'] := by
  unfold start
  split
  · simp
  · simp
  · simp
  · rename_i no_slash _ _
    cases cs with
    | nil => simp
    | cons c rest =>
      have : c ≠ '/' := by
        rintro rfl
        exact no_slash rest rfl
      simp [this]

/-- A path that is cut off behind its `start` is absolute if the whole path is. -/
theorem head?_start_append {cs body t : List Char} (h : cs = start cs ++ body) (ht : t <+: body) :
    (start cs ++ t).head? = some '/' ↔ cs.head? = some '/' := by
  obtain ⟨rest, rfl⟩ := ht
  cases hs : start cs with
  | cons c front =>
    rw [hs] at h
    rw [h]
    rfl
  | nil =>
    rw [hs, List.nil_append] at h
    cases t with
    | nil =>
      rw [head?_eq_slash_iff cs, hs]
      simp
    | cons c t => simp [h]

/-- The `parent?` of a path leads through the same `names` but the last, from where the path starts.
    -/
theorem parent?_spec {path parent : String} (h : parent? path = some parent) :
    names parent = (names path).dropLast ∧ isAbsolute parent = isAbsolute path := by
  rw [names_eq, names_eq, ← List.map_dropLast]
  obtain ⟨body, hcs, starts, ⟨last, idle⟩ | ⟨front, part, junk, last, rfl, opens, isPart, closes,
    idle⟩⟩ := lastPart?_spec path.toList
  -- without a last part only a path that starts with a dot has a parent, the empty one
  · have no_turns : turns path.toList = [] := by
      rw [hcs, starts.turns_append, idle.turns_eq]
    simp only [parent?, last] at h
    split at h
    · rename_i dot
      cases h
      have relative : isAbsolute path = false := by
        rw [isAbsolute, decide_eq_false_iff_not, head?_eq_slash_iff, dot]
        decide
      rw [no_turns, relative]
      exact ⟨rfl, rfl⟩
    · cases h
  -- the parent is the front without what leads nowhere at its end, so it loses just the last name
  · obtain ⟨kept, rest, ⟨rfl, idle_rest, ends⟩, trimmed⟩ :=
      trimEnd_reverse (Nat.le_refl front.length)
    simp only [parent?, last, List.length_reverse, trimmed, List.reverse_reverse,
      Option.some.injEq] at h
    subst h
    have kept_prefix : kept <+: kept ++ rest ++ part ++ junk := by
      rw [List.append_assoc, List.append_assoc]
      exact List.prefix_append ..
    have front_turns : turns (kept ++ rest) = turns kept := by
      rcases ends with rfl | ⟨closes_rest, -⟩
      · exact idle_rest.turns_eq
      · rw [turns_append (.inr closes_rest), idle_rest.turns_eq, List.append_nil]
    have kept_starts : Starts (start path.toList) kept := by
      obtain ⟨t, ht⟩ := kept_prefix
      exact (ht ▸ starts).of_append
    constructor
    · rw [String.toList_ofList, kept_starts.turns_append, hcs, starts.turns_append,
        turns_append (.inr closes), idle.turns_eq, turns_append (.inl opens), front_turns,
        isPart.turns_eq, List.append_nil, List.dropLast_concat]
    · rw [isAbsolute, isAbsolute, String.toList_ofList, Bool.eq_iff_iff, decide_eq_true_eq,
        decide_eq_true_eq, head?_start_append hcs kept_prefix]

/-- The `parent?` of a path goes up only if the path does. -/
theorem parent?_down {path parent : String} (h : parent? path = some parent)
    (down : ".." ∉ parts path) : ".." ∉ parts parent := by
  intro up
  have named : ".." ∈ names parent := List.mem_filter.mpr ⟨up, by decide⟩
  rw [(parent?_spec h).1] at named
  exact down (List.mem_filter.mp (List.dropLast_subset _ named)).1

/-- A path has a last part, with nothing but `Idle` text behind it. -/
structure Ends (cs front part junk : List Char) : Prop where
  eq : cs = front ++ (part ++ junk)
  opens : Opens front
  isPart : IsPart part
  closes : Closes junk
  idle : Idle junk

namespace Ends

variable {cs front part junk front' part' junk' : List Char}

/-- The `pieces` of a path are those before its last part, the part, and those behind it. -/
theorem pieces_eq (h : Ends cs front part junk) :
    pieces cs = pieces front ++ part :: pieces junk := by
  rw [h.eq, pieces_append (.inl h.opens), pieces_append (.inr h.closes), h.isPart.pieces_eq]
  rfl

/-- The `turns` of a path end with its last part: those behind it are single dots. -/
theorem turns_eq (h : Ends cs front part junk) : turns cs = turns front ++ [part] := by
  rw [h.eq, turns_append (.inl h.opens), turns_append (.inr h.closes), h.isPart.turns_eq,
    h.idle.turns_eq, List.append_nil]

/-- `Ends` leaves no other part behind the last one. -/
theorem eq_nil_of_append {x : List Char} (h : Ends cs front part junk)
    (h' : Ends cs (front ++ x) part' junk') : x = [] := by
  have rest : part ++ junk = x ++ (part' ++ junk') := by
    have both := h.eq.symm.trans h'.eq
    rwa [List.append_assoc, List.append_cancel_left_eq] at both
  have opens : Opens x := by
    rcases h'.opens with he | ⟨g, he⟩
    · exact .inl (List.append_eq_nil_iff.mp he).2
    · rcases List.eq_nil_or_concat x with rfl | ⟨x, c, rfl⟩
      · exact .inl rfl
      · rw [List.concat_eq_append, ← List.append_assoc] at he
        exact .inr ⟨x, by rw [List.concat_eq_append, (List.append_inj' he rfl).2]⟩
  have cut := congrArg pieces rest
  rw [pieces_append (.inr h.closes), h.isPart.pieces_eq, pieces_append (.inl opens),
    pieces_append (.inr h'.closes), h'.isPart.pieces_eq] at cut
  cases hx : pieces x with
  | nil =>
    -- then there are slashes only, but the last part comes first
    cases x with
    | nil => rfl
    | cons c x =>
      have slash := eq_slash_of_mem hx c List.mem_cons_self
      cases part with
      | nil => exact absurd rfl h.isPart.ne_nil
      | cons d part =>
        injection rest with first _
        exact absurd (first.trans slash) fun he => h.isPart.no_slash (he ▸ List.mem_cons_self)
  | cons a as =>
    -- then the other last part stands in what is idle
    rw [hx] at cut
    injection cut with _ behind
    have mem : part' ∈ pieces junk := by
      change pieces junk = as ++ ([part'] ++ pieces junk') at behind
      rw [behind]
      simp
    exact absurd (h.idle part' mem) h'.isPart.ne_dot

/-- `Ends` takes a path apart in one way only. -/
theorem unique (h : Ends cs front part junk) (h' : Ends cs front' part' junk') :
    front = front' ∧ part = part' := by
  have same : front = front' := by
    rcases List.append_eq_append_iff.mp (h.eq.symm.trans h'.eq) with ⟨x, rfl, -⟩ | ⟨x, rfl, -⟩
    · rw [h.eq_nil_of_append h', List.append_nil]
    · rw [h'.eq_nil_of_append h, List.append_nil]
  subst same
  have cut := h.pieces_eq.symm.trans h'.pieces_eq
  rw [List.append_cancel_left_eq] at cut
  injection cut with he _
  exact ⟨rfl, he⟩

end Ends

/-- A path has no `turns`, or it has a last part that `splitName?` finds unless it goes up. -/
theorem exists_ends (cs : List Char) : (turns cs = [] ∧ splitName? cs = none) ∨
    ∃ front part junk, Ends cs front part junk ∧
      splitName? cs = if part = ['.', '.'] then none else some (front, part) := by
  obtain ⟨body, hcs, starts, ⟨last, idle⟩ | ⟨front, part, junk, last, rfl, opens, isPart, closes,
    idle⟩⟩ := lastPart?_spec cs
  · refine .inl ⟨?_, by simp only [splitName?, last]⟩
    rw [hcs, starts.turns_append, idle.turns_eq]
  -- a part that starts the body starts a part of the whole path
  · have opens' : Opens (start cs ++ front) := by
      rcases opens with rfl | ⟨g, rfl⟩
      · rcases starts with he | he | ⟨-, closes'⟩
        · exact .inl (by rw [he]; rfl)
        · exact .inr ⟨[], by rw [he]; rfl⟩
        · -- a single dot at the start is followed by a slash
          rcases closes' with he | ⟨rest, he⟩
          · simp [isPart.ne_nil] at he
          · cases part with
            | nil => exact absurd rfl isPart.ne_nil
            | cons c part =>
              injection he with hc _
              exact absurd (hc ▸ List.mem_cons_self) isPart.no_slash
      · exact .inr ⟨start cs ++ g, by simp⟩
    exact .inr ⟨_, part, junk, ⟨by simpa using hcs, opens', isPart, closes, idle⟩,
      by simp only [splitName?, last, List.reverse_reverse]⟩

/-- The last part is what `splitName?` finds, if it is a name. -/
theorem Ends.splitName?_eq {cs front part junk : List Char} (h : Ends cs front part junk) :
    splitName? cs = if part = ['.', '.'] then none else some (front, part) := by
  rcases exists_ends cs with ⟨no_turns, -⟩ | ⟨front', part', junk', h', found⟩
  · rw [h.turns_eq] at no_turns
    simp at no_turns
  · obtain ⟨rfl, rfl⟩ := h.unique h'
    exact found

/-- What `splitName?` finds is the last part of a path, and does not go up. -/
theorem splitName?_eq_some {cs front name : List Char} (h : splitName? cs = some (front, name)) :
    name ≠ ['.', '.'] ∧ ∃ junk, Ends cs front name junk := by
  rcases exists_ends cs with ⟨-, none_found⟩ | ⟨front', part', junk', ends, found⟩
  · rw [none_found] at h
    cases h
  · rw [found] at h
    split at h
    · cases h
    · rename_i ne
      cases h
      exact ⟨ne, _, ends⟩

/-! ### Extensions -/

/-- `splitExtension` cuts a name at its last dot. -/
theorem splitExtension_append {stem ext : List Char} (ne : stem ≠ []) (no_dot : '.' ∉ ext) :
    splitExtension (stem ++ '.' :: ext) = (stem, some ext) := by
  have cut := while_reverse '.' (show stem ++ ['.'] = [] ∨ _ from .inr ⟨stem, rfl⟩) no_dot
  rw [List.append_assoc, List.singleton_append] at cut
  simp only [splitExtension, splitExtension.splitDot, cut.1, cut.2]
  simp [ne]

/-- `splitExtension` gives a stem with an extension, or the whole name as a stem without one. -/
theorem splitExtension_spec (name : List Char) : splitExtension name = (name, none) ∨
    ∃ stem ext, name = stem ++ '.' :: ext ∧ stem ≠ [] ∧ '.' ∉ ext ∧
      splitExtension name = (stem, some ext) := by
  obtain ⟨front, ext, rfl, rfl | ⟨stem, rfl⟩, no_dot⟩ := exists_last '.' name
  · have cut := while_reverse '.' (.inl rfl) no_dot
    refine .inl ?_
    simp only [splitExtension, splitExtension.splitDot, cut.1]
    rfl
  · by_cases ne : stem = []
    · subst ne
      have cut := while_reverse '.' (show ['.'] = [] ∨ _ from .inr ⟨[], rfl⟩) no_dot
      refine .inl ?_
      simp only [splitExtension, splitExtension.splitDot, List.nil_append, cut.1, cut.2]
      rfl
    · refine .inr ⟨stem, ext, by simp, ne, no_dot, ?_⟩
      rw [List.append_assoc, List.singleton_append, splitExtension_append ne no_dot]

/-- `replaceExtension` works on the last part of a path: what stands in front of it stays. -/
theorem Ends.replaceExtension_eq {cs front name junk : List Char} (ends : Ends cs front name junk)
    (ext : List Char) : replaceExtension cs ext =
      if name = ['.', '.'] then cs else front ++ ((splitExtension name).1 ++ '.' :: ext) := by
  rw [replaceExtension, ends.splitName?_eq]
  by_cases up : name = ['.', '.'] <;> simp [up]

/-- As many characters as an extension has are taken off the end of a path, some of them `Idle`; the
    last part is then cut as far as the others reach. -/
theorem Ends.take {cs front stem old junk : List Char}
    (ends : Ends cs front (stem ++ '.' :: old) junk) (ne : stem ≠ []) :
    Ends (cs.take (cs.length - old.length)) front (stem ++ '.' :: old.take junk.length)
      (junk.take (junk.length - old.length)) := by
  have text : cs = front ++ (stem ++ ['.']) ++ (old ++ junk) := by
    rw [ends.eq]
    simp
  -- what is taken off reaches into the junk first and then into the extension
  have length : cs.length - old.length = (front ++ (stem ++ ['.'])).length + junk.length := by
    rw [text]
    simp
    omega
  have whole := List.take_append_drop (junk.length - old.length) junk
  refine ⟨?_, ends.opens, ⟨fun slash => ends.isPart.no_slash ?_, by simp, fun dot => ne ?_⟩,
    (whole ▸ ends.closes).of_append, (whole ▸ ends.idle).of_append⟩
  · rw [length, text, List.take_length_add_append, List.take_append]
    simp
  · rw [List.mem_append, List.mem_cons] at slash ⊢
    exact slash.imp_right (Or.imp_right List.mem_of_mem_take)
  · have alone := congrArg List.length dot
    simp only [List.length_append, List.length_cons, List.length_nil] at alone
    exact List.eq_nil_of_length_eq_zero (by omega)

/-- **`withExtension` changes the last name only**, and takes off what stands behind it.  A name
    `..x` becomes the directory above. -/
theorem withExtension_eq {path : String} {front name : List Char}
    (h : splitName? path.toList = some (front, name)) (ext : String) :
    (withExtension path ext).toList = front ++ ((splitExtension name).1 ++ '.' :: ext.toList) ∨
      (withExtension path ext).toList = front ++ ['.', '.'] := by
  obtain ⟨ne_up, junk, ends⟩ := splitName?_eq_some h
  -- without an extension a new one is put behind the name; an old one is taken off before
  rcases splitExtension_spec name with no_ext | ⟨stem, old, rfl, ne, no_dot, cut⟩
  · refine .inl ?_
    simp [withExtension, h, no_ext, ends.replaceExtension_eq, ne_up]
  · have left := ends.take ne
    have changed : (withExtension path ext).toList = replaceExtension
        (path.toList.take (path.toList.length - old.length)) ext.toList := by
      simp [withExtension, h, cut]
    rw [changed, left.replaceExtension_eq, cut]
    by_cases up : stem ++ '.' :: old.take junk.length = ['.', '.']
    · -- then all of the extension is taken off, and nothing idle was there
      have no_junk : junk = [] := by
        have short := congrArg List.length up
        have one := List.length_pos_iff.mpr ne
        simp only [List.length_append, List.length_cons, List.length_take,
          List.length_nil] at short
        by_cases no_old : old = []
        · subst no_old
          rw [List.take_nil] at up
          exact absurd up ne_up
        · have pos := List.length_pos_iff.mpr no_old
          exact List.eq_nil_of_length_eq_zero (by omega)
      rw [if_pos up, left.eq, up, no_junk]
      exact .inr (by simp)
    · rw [if_neg up, splitExtension_append ne fun hd => no_dot (List.mem_of_mem_take hd)]
      exact .inl rfl

end Path

end FlowDump
