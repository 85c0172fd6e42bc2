import Mathlib.Data.List.Basic

/-!
# Removing every match of a pattern

A pattern says which texts are a match where a given text follows.  What is
removed from a text are its matches from left to right, none of them begun
inside another: the text is cut into gaps and matches (`Split`), so that no
match begins in a gap.  There is one such cut (`Split.unique`), and a scan
that drops the match at its head, or else keeps one character, leaves the gaps
(`Removes.split`).

The text in front of a point can be cut on its own as soon as no match goes
over the point (`Uncrossed`).  What follows the point does count where the end
of a match depends on what comes next, so every cut is made in a context.
-/
namespace CrossBuild.Text

/-! ## 1. Patterns -/

/-- A match begins a text. -/
def Starts (At : List Char → List Char → Prop) (text : List Char) : Prop :=
  ∃ b rest, At b rest ∧ text = b ++ rest

/-- Matches have characters, and two that begin at one place are the same. -/
structure IsPattern (At : List Char → List Char → Prop) : Prop where
  ne_nil {b rest : List Char} : At b rest → b ≠ []
  unique {b rest b' rest' : List Char} :
    At b rest → At b' rest' → b ++ rest = b' ++ rest' → b = b'

/-- No match begins in a gap where `rest` follows. -/
def Free (At : List Char → List Char → Prop) (gap rest : List Char) : Prop :=
  ∀ u v, gap = u ++ v → v ≠ [] → ¬Starts At (v ++ rest)

/-- No match goes over the point in front of `w`. -/
def Uncrossed (At : List Char → List Char → Prop) (w : List Char) : Prop :=
  ∀ x y rest, x ≠ [] → y ≠ [] → At (x ++ y) rest → w ≠ y ++ rest

section Gaps

variable {At : List Char → List Char → Prop} {c : Char} {gap rest : List Char}

theorem free_nil : Free At [] rest := by
  intro u v h hv
  exact absurd (List.append_eq_nil_iff.mp h.symm).2 hv

theorem free_cons : Free At (c :: gap) rest ↔
    ¬Starts At (c :: (gap ++ rest)) ∧ Free At gap rest := by
  constructor
  · intro h
    exact ⟨h [] (c :: gap) rfl (List.cons_ne_nil c gap),
      fun u v huv => h (c :: u) v (congrArg (c :: ·) huv)⟩
  · rintro ⟨hhead, h⟩ u v huv hv
    cases u with
    | nil =>
      rw [← show c :: gap = v from huv]
      exact hhead
    | cons d u =>
      cases huv
      exact h u v rfl hv

theorem free_append {gap' : List Char} :
    Free At (gap ++ gap') rest ↔ Free At gap (gap' ++ rest) ∧ Free At gap' rest := by
  induction gap with
  | nil => simp [free_nil]
  | cons c gap ih => simp only [List.cons_append, free_cons, ih, List.append_assoc, and_assoc]

theorem free_of_forall (h : ∀ c ∈ gap, ∀ cs, ¬Starts At (c :: cs)) : Free At gap rest := by
  induction gap with
  | nil => exact free_nil
  | cons c gap ih =>
    exact free_cons.mpr ⟨h c List.mem_cons_self _, ih fun d hd => h d (List.mem_cons_of_mem c hd)⟩

/-- Where a match begins is not in a gap. -/
theorem Free.prefix_of_starts {x gap' x' : List Char} (h : Free At gap x) (hx' : Starts At x')
    (he : gap ++ x = gap' ++ x') : gap <+: gap' := by
  rcases List.append_eq_append_iff.mp he with ⟨v, rfl, -⟩ | ⟨v, hgap, hx⟩
  · exact List.prefix_append _ _
  · by_cases hv : v = []
    · exact ⟨[], by simp [hgap, hv]⟩
    · exact absurd (hx ▸ hx') (h gap' v hgap hv)

/-- The first match of a text is at one place. -/
theorem Free.unique {x gap' x' : List Char} (h : Free At gap x) (h' : Free At gap' x')
    (hx : Starts At x) (hx' : Starts At x') (he : gap ++ x = gap' ++ x') : gap = gap' :=
  (h.prefix_of_starts hx' he).eq_of_length_le (h'.prefix_of_starts hx he.symm).length_le

theorem uncrossed_nil : Uncrossed At [] := by
  intro x y rest _ hy _ h
  exact hy (List.append_eq_nil_iff.mp h.symm).1

end Gaps

/-! ## 2. Cuts -/

/-- A text in front of `w` is cut into pairs of a gap and a match, and a last gap. -/
inductive Split (At : List Char → List Char → Prop) (w : List Char) :
    List Char → List (List Char × List Char) → List Char → Prop where
  | last {gap : List Char} (free : Free At gap w) : Split At w gap [] gap
  | piece {gap b rest last : List Char} {pieces : List (List Char × List Char)}
    (free : Free At gap (b ++ (rest ++ w))) (block : At b (rest ++ w))
    (more : Split At w rest pieces last) :
    Split At w (gap ++ (b ++ rest)) ((gap, b) :: pieces) last

/-- The gaps of a cut. -/
def kept (pieces : List (List Char × List Char)) (last : List Char) : List Char :=
  pieces.flatMap Prod.fst ++ last

@[simp] theorem kept_nil (last : List Char) : kept [] last = last := rfl

@[simp] theorem kept_cons (gap b last : List Char) (pieces : List (List Char × List Char)) :
    kept ((gap, b) :: pieces) last = gap ++ kept pieces last := by
  simp [kept]

variable {At : List Char → List Char → Prop} {w text last : List Char}
  {pieces : List (List Char × List Char)}

/-- The gaps and matches of a cut, in order, are the text. -/
theorem Split.text_eq (h : Split At w text pieces last) :
    text = (pieces.flatMap fun p => p.1 ++ p.2) ++ last := by
  induction h with
  | last => rfl
  | piece _ _ _ ih => simp [← ih]

theorem Split.unique (hAt : IsPattern At) (h : Split At w text pieces last)
    {pieces' : List (List Char × List Char)} {last' : List Char}
    (h' : Split At w text pieces' last') : pieces' = pieces ∧ last' = last := by
  induction h generalizing pieces' last' with
  | @last gap free =>
    generalize htext : gap = text at h'
    cases h' with
    | last => exact ⟨rfl, rfl⟩
    | @piece gap' b rest _ _ _ block _ =>
      refine absurd ⟨b, rest ++ w, block, by simp⟩ (free gap' (b ++ rest) htext ?_)
      simp [hAt.ne_nil block]
  | @piece gap b rest last pieces free block more ih =>
    generalize htext : gap ++ (b ++ rest) = text at h'
    cases h' with
    | last free' =>
      refine absurd ⟨b, rest ++ w, block, by simp⟩ (free' gap (b ++ rest) htext.symm ?_)
      simp [hAt.ne_nil block]
    | @piece gap' b' rest' _ _ free' block' more' =>
      have he : gap ++ (b ++ (rest ++ w)) = gap' ++ (b' ++ (rest' ++ w)) := by
        simpa using congrArg (· ++ w) htext
      have hgap : gap = gap' := free.unique free' ⟨b, _, block, rfl⟩ ⟨b', _, block', rfl⟩ he
      subst hgap
      have hb : b = b' := hAt.unique block block' (List.append_cancel_left he)
      subst hb
      have hrest : rest' = rest := by simpa using htext.symm
      subst hrest
      obtain ⟨rfl, rfl⟩ := ih more'
      exact ⟨rfl, rfl⟩

/-- A character where no match begins belongs to the first gap. -/
theorem Split.cons {c : Char} (hc : ¬Starts At (c :: (text ++ w)))
    (h : Split At w text pieces last) :
    ∃ pieces' last', Split At w (c :: text) pieces' last' := by
  cases h with
  | last free => exact ⟨_, _, .last (free_cons.mpr ⟨hc, free⟩)⟩
  | @piece gap b rest _ pieces free block more =>
    refine ⟨(c :: gap, b) :: pieces, last, .piece (free_cons.mpr ⟨?_, free⟩) block more⟩
    simpa using hc

/-- The induction along a cut: a text is empty, or a match begins it, or its first character
is in a gap. -/
theorem IsPattern.induction (hAt : IsPattern At) {P : List Char → Prop} (nil : P [])
    (block : ∀ b rest, At b rest → P rest → P (b ++ rest))
    (char : ∀ c cs, ¬Starts At (c :: cs) → P cs → P (c :: cs)) (text : List Char) : P text := by
  induction hn : text.length using Nat.strongRecOn generalizing text with
  | ind n ih =>
    cases text with
    | nil => exact nil
    | cons c cs =>
      by_cases hstarts : Starts At (c :: cs)
      · obtain ⟨b, rest, hb, he⟩ := hstarts
        rw [he] at hn ⊢
        have hpos := List.length_pos_of_ne_nil (hAt.ne_nil hb)
        refine block b rest hb (ih rest.length ?_ rest rfl)
        simp only [List.length_append] at hn
        omega
      · exact char c cs hstarts (ih cs.length (by simp [← hn]) cs rfl)

/-- What stands in front of a point that no match goes over can be cut on its own. -/
theorem IsPattern.exists_split (hAt : IsPattern At) (hw : Uncrossed At w) (text : List Char) :
    ∃ pieces last, Split At w text pieces last := by
  induction hn : text.length using Nat.strongRecOn generalizing text with
  | ind n ih =>
    cases text with
    | nil => exact ⟨[], [], .last free_nil⟩
    | cons c cs =>
      by_cases hstarts : Starts At (c :: (cs ++ w))
      · obtain ⟨b, r, hb, he⟩ := hstarts
        obtain ⟨rest, hrest, rfl⟩ : ∃ rest, c :: cs = b ++ rest ∧ r = rest ++ w := by
          rcases List.append_eq_append_iff.mp (show (c :: cs) ++ w = b ++ r from he)
            with ⟨y, rfl, hy⟩ | ⟨rest, hrest, hr⟩
          · by_cases hynil : y = []
            · exact ⟨[], by simp [hynil], by simpa [hynil] using hy.symm⟩
            · exact absurd hy (hw _ y r (List.cons_ne_nil c cs) hynil hb)
          · exact ⟨rest, hrest, hr⟩
        have hpos := List.length_pos_of_ne_nil (hAt.ne_nil hb)
        have hlength := congrArg List.length hrest
        simp only [List.length_append] at hlength
        obtain ⟨pieces, last, hmore⟩ := ih rest.length (by omega) rest rfl
        exact ⟨([], b) :: pieces, last, hrest ▸ .piece free_nil hb hmore⟩
      · obtain ⟨pieces, last, hmore⟩ := ih cs.length (by simp [← hn]) cs rfl
        exact hmore.cons hstarts

/-- A cut stands in another context if its matches do, and no other match begins. -/
theorem Split.transfer {w' : List Char} (h : Split At w text pieces last)
    (hblock : ∀ b rest, At b (rest ++ w) → At b (rest ++ w'))
    (hstarts : ∀ v, v ≠ [] → v <:+ text → Starts At (v ++ w') → Starts At (v ++ w)) :
    Split At w' text pieces last := by
  induction h with
  | last free =>
    refine .last fun u v huv hv hv' => free u v huv hv (hstarts v hv ?_ hv')
    exact ⟨u, huv.symm⟩
  | @piece gap b rest last pieces free block more ih =>
    refine .piece (fun u v huv hv hv' => free u v huv hv ?_) (hblock b rest block)
      (ih fun v hv hsuffix => hstarts v hv (hsuffix.trans ?_))
    · have hsuffix : v ++ (b ++ rest) <:+ gap ++ (b ++ rest) := ⟨u, by simp [huv]⟩
      have hv := hstarts (v ++ (b ++ rest)) (by simp [hv]) hsuffix (by simpa using hv')
      simpa using hv
    · exact (List.suffix_append b rest).trans (List.suffix_append gap _)

/-! ## 3. Scans -/

/-- A scan that drops the match at its head, or else keeps one character. -/
structure Removes (At : List Char → List Char → Prop) (f : List Char → List Char) : Prop where
  nil : f [] = []
  block {b rest : List Char} : At b rest → f (b ++ rest) = f rest
  char {c : Char} {cs : List Char} : ¬Starts At (c :: cs) → f (c :: cs) = c :: f cs

namespace Removes

variable {f : List Char → List Char}

theorem gap (hf : Removes At f) {gap rest : List Char} (h : Free At gap rest) :
    f (gap ++ rest) = gap ++ f rest := by
  induction gap with
  | nil => rfl
  | cons c gap ih =>
    rw [free_cons] at h
    rw [List.cons_append, hf.char h.1, ih h.2, List.cons_append]

/-- A scan leaves the gaps, and goes on after the text that is cut. -/
theorem split (hf : Removes At f) (h : Split At w text pieces last) :
    f (text ++ w) = kept pieces last ++ f w := by
  induction h with
  | last free => exact hf.gap free
  | @piece gap b rest last pieces free block more ih =>
    calc f (gap ++ (b ++ rest) ++ w) = f (gap ++ (b ++ (rest ++ w))) := by simp
      _ = gap ++ f (rest ++ w) := by rw [hf.gap free, hf.block block]
      _ = kept ((gap, b) :: pieces) last ++ f w := by simp [ih]

theorem eq_kept (hf : Removes At f) (h : Split At [] text pieces last) :
    f text = kept pieces last := by
  simpa [hf.nil] using hf.split h

/-- Where no match goes over a point, what is left of the text after it ends what is left
of the whole. -/
theorem suffix (hf : Removes At f) (hAt : IsPattern At) (hw : Uncrossed At w)
    (text : List Char) : f w <:+ f (text ++ w) := by
  obtain ⟨pieces, last, hsplit⟩ := hAt.exists_split hw text
  rw [hf.split hsplit]
  exact List.suffix_append _ _

/-- A character that is left was in a gap, and what is left after it comes from the text
after it. -/
theorem of_eq_append_cons (hf : Removes At f) (hAt : IsPattern At) {c : Char}
    {front rest : List Char} (h : f text = front ++ c :: rest) :
    ∃ u v, text = u ++ c :: v ∧ f v = rest ∧ f (c :: v) = c :: rest := by
  induction text using hAt.induction generalizing front with
  | nil => simp [hf.nil] at h
  | block b after hb ih =>
    rw [hf.block hb] at h
    obtain ⟨u, v, rfl, hv⟩ := ih h
    exact ⟨b ++ u, v, by simp, hv⟩
  | char d cs hd ih =>
    rw [hf.char hd] at h
    cases front with
    | nil =>
      obtain ⟨rfl, hrest⟩ := List.cons_eq_cons.mp h
      exact ⟨[], cs, rfl, hrest, hrest ▸ hf.char hd⟩
    | cons d' front =>
      obtain ⟨u, v, rfl, hv⟩ := ih (List.cons_eq_cons.mp h).2
      exact ⟨d :: u, v, rfl, hv⟩

end Removes

/-! ## 4. Fixed texts -/

/-- The pattern that one text alone matches, whatever follows. -/
def Literal (line : List Char) : List Char → List Char → Prop :=
  fun b _ => b = line

/-- No proper end of a text is a start of it. -/
def Unbordered (line : List Char) : Prop :=
  ∀ x y z, line = x ++ y → line = y ++ z → y ≠ [] → x = []

/-- A text without any of the occurrences of a line, whichever is taken out first. -/
inductive Without (line : List Char) : List Char → List Char → Prop where
  | absent {text : List Char} (h : ¬line <:+: text) : Without line text text
  | occurrence {u u' v v' : List Char} (front : Without line u u') (back : Without line v v') :
    Without line (u ++ (line ++ v)) (u' ++ v')

section Literal

variable {line : List Char}

theorem starts_literal : Starts (Literal line) text ↔ line <+: text := by
  constructor
  · rintro ⟨b, rest, rfl, rfl⟩
    exact List.prefix_append _ _
  · rintro ⟨rest, rfl⟩
    exact ⟨line, rest, rfl, rfl⟩

theorem isPattern_literal (h : line ≠ []) : IsPattern (Literal line) where
  ne_nil := by
    rintro b rest rfl
    exact h
  unique := by
    rintro b rest b' rest' rfl rfl -
    rfl

/-- A line end stands at the end only, so that it is in no proper start. -/
theorem unbordered_of_lineEnd {body : List Char} (h : '\n' ∉ body) :
    Unbordered (body ++ ['\n']) := by
  intro x y z hxy hyz hy
  obtain ⟨u, hbody, rfl⟩ : ∃ u, body = x ++ u ∧ y = u ++ ['\n'] := by
    rcases List.append_eq_append_iff.mp hxy with ⟨u, rfl, hu⟩ | ⟨u, hbody, hy⟩
    · rcases List.append_eq_singleton_iff.mp hu.symm with ⟨rfl, rfl⟩ | ⟨-, hnil⟩
      · exact ⟨[], by simp, rfl⟩
      · exact absurd hnil hy
    · exact ⟨u, hbody, hy⟩
  have hu : body ++ '\n' :: [] = u ++ '\n' :: z := by simpa using hyz
  obtain ⟨rfl, -, -⟩ := (List.append_cons_inj_of_notMem h List.not_mem_nil).mp hu
  simpa using hbody

theorem Unbordered.uncrossed (h : Unbordered line) (w : List Char) :
    Uncrossed (Literal line) (line ++ w) := by
  intro x y rest hx hy hxy he
  have hline : x ++ y = line := hxy
  have hlength := congrArg List.length hline
  simp only [List.length_append] at hlength
  obtain ⟨z, hz⟩ : y <+: line := by
    refine List.prefix_of_prefix_length_le ⟨rest, he.symm⟩ (List.prefix_append line w) ?_
    omega
  exact hx (h x y z hline.symm hz.symm hy)

/-- Occurrences do not overlap: one that begins in front of another ends there too. -/
theorem Unbordered.prefix_of_append {begun rest rest' : List Char} (h : Unbordered line)
    (hne : begun ≠ []) (he : begun ++ (line ++ rest) = line ++ rest') : line <+: begun := by
  rcases List.append_eq_append_iff.mp he with ⟨y, hline, hrest⟩ | ⟨x, hbegun, -⟩
  · by_cases hy : y = []
    · exact ⟨[], by rw [List.append_nil, hline, hy, List.append_nil]⟩
    · have hlength := congrArg List.length hline
      rw [List.length_append] at hlength
      obtain ⟨z, hz⟩ : y <+: line := by
        refine List.prefix_of_prefix_length_le ⟨rest', hrest.symm⟩ (List.prefix_append line rest) ?_
        omega
      exact absurd (h begun y z hline hz.symm hy) hne
  · exact ⟨x, hbegun.symm⟩

/-- An occurrence after a text leaves the cut of it as it is. -/
theorem Split.insert (h : Split (Literal line) w text pieces last) (hline : Unbordered line) :
    Split (Literal line) (line ++ w) text pieces last := by
  refine h.transfer (fun b rest hb => hb) fun v hv _ hstarts => ?_
  rw [starts_literal] at hstarts ⊢
  obtain ⟨rest, he⟩ := hstarts
  rcases List.append_eq_append_iff.mp he with ⟨u, rfl, -⟩ | ⟨y, hy, he⟩
  · rw [List.append_assoc]
    exact List.prefix_append _ _
  · by_cases hynil : y = []
    · rw [hy, hynil, List.append_nil]
      exact List.prefix_append _ _
    · have hlength := congrArg List.length hy
      simp only [List.length_append] at hlength
      obtain ⟨z, hz⟩ : y <+: line :=
        List.prefix_of_prefix_length_le ⟨rest, he.symm⟩ (List.prefix_append line w) (by omega)
      exact absurd (hline v y z hy hz.symm hynil) hv

namespace Removes

variable {f : List Char → List Char}

/-- An occurrence is removed wherever it stands. -/
theorem occurrence (hf : Removes (Literal line) f) (hne : line ≠ []) (h : Unbordered line)
    (u v : List Char) : f (u ++ (line ++ v)) = f u ++ f v := by
  obtain ⟨pieces, last, hsplit⟩ := (isPattern_literal hne).exists_split (h.uncrossed v) u
  have hu : Split (Literal line) [] u pieces last := by
    refine hsplit.transfer (fun b rest hb => hb) fun t ht _ hstarts => ?_
    rw [starts_literal, List.append_nil] at hstarts
    exact starts_literal.mpr (hstarts.trans (List.prefix_append _ _))
  rw [hf.split hsplit, hf.eq_kept hu, hf.block rfl]

theorem of_not_infix (hf : Removes (Literal line) f) (h : ¬line <:+: text) : f text = text := by
  have hfree : Free (Literal line) text [] := by
    intro u v huv _ hstarts
    rw [starts_literal, List.append_nil] at hstarts
    exact h (huv ▸ hstarts.isInfix.trans (List.suffix_append u v).isInfix)
  exact hf.eq_kept (.last hfree)

/-- A scan for a line takes out every occurrence of it. -/
theorem without_iff (hf : Removes (Literal line) f) (hne : line ≠ []) (h : Unbordered line)
    {text' : List Char} : Without line text text' ↔ text' = f text := by
  constructor
  · intro hwithout
    induction hwithout with
    | absent habsent => exact (hf.of_not_infix habsent).symm
    | occurrence _ _ ihu ihv => rw [hf.occurrence hne h, ihu, ihv]
  · rintro rfl
    induction hn : text.length using Nat.strongRecOn generalizing text with
    | ind n ih =>
      by_cases habsent : line <:+: text
      · obtain ⟨u, v, rfl⟩ := habsent
        have hpos := List.length_pos_of_ne_nil hne
        simp only [List.length_append] at hn
        rw [List.append_assoc, hf.occurrence hne h]
        exact .occurrence (ih u.length (by omega) rfl) (ih v.length (by omega) rfl)
      · rw [hf.of_not_infix habsent]
        exact .absent habsent

end Removes

end Literal

end CrossBuild.Text
