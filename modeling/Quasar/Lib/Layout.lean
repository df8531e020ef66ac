import Quasar.Lib.Cursor

/-!
# Layout — formats as lists of fields, and the decoders that recognize them

A layout lists the fields of an encoded value in order.  A field is a fixed byte string, or a flag,
for which every non-zero byte means true; so two encodings of one value differ in flag bytes at most.
A decoder recognizes a layout when it reads exactly the encodings of the layout, at every position of
every buffer.  The rules compose recognition along the decoder's own text.
-/

namespace Lib

inductive Field
  | bytes (bs : List UInt8)
  | flag (b : Bool)

/-- The byte strings that stand for a field. -/
def Field.Matches : Field → List UInt8 → Prop
  | .bytes bs, b => b = bs
  | .flag f, b => ∃ x, b = [x] ∧ (x != 0) = f

/-- For each byte of a field whether it is a flag. -/
def Field.flags : Field → List Bool
  | .bytes bs => bs.map fun _ => false
  | .flag _ => [true]

abbrev Layout := List Field

namespace Layout

inductive Matches : Layout → List UInt8 → Prop
  | nil : Matches [] []
  | cons {f : Field} {fs : Layout} {b bs : List UInt8} (hf : f.Matches b) (hfs : Matches fs bs) :
      Matches (f :: fs) (b ++ bs)

/-- For each byte of an encoding whether it is a flag. -/
def flags (fs : Layout) : List Bool :=
  fs.flatMap Field.flags

variable {f : Field} {fs gs : Layout} {b b' bs bs' : List UInt8}

@[simp] theorem matches_nil_iff : Matches [] bs ↔ bs = [] := by
  constructor
  · intro h
    cases h
    rfl
  · rintro rfl
    exact Matches.nil

theorem matches_cons_iff :
    Matches (f :: fs) bs ↔ ∃ b rest, bs = b ++ rest ∧ f.Matches b ∧ Matches fs rest := by
  constructor
  · intro h
    cases h with
    | cons hf hfs => exact ⟨_, _, rfl, hf, hfs⟩
  · rintro ⟨b, rest, rfl, hf, hfs⟩
    exact Matches.cons hf hfs

theorem matches_append_iff :
    Matches (fs ++ gs) bs ↔ ∃ b rest, bs = b ++ rest ∧ Matches fs b ∧ Matches gs rest := by
  induction fs generalizing bs with
  | nil => simp
  | cons f fs ih =>
      simp only [List.cons_append, matches_cons_iff, ih]
      constructor
      · rintro ⟨b, _, rfl, hf, rest, tail, rfl, hfs, hgs⟩
        exact ⟨b ++ rest, tail, by simp, ⟨b, rest, rfl, hf, hfs⟩, hgs⟩
      · rintro ⟨_, tail, rfl, ⟨b, rest, rfl, hf, hfs⟩, hgs⟩
        exact ⟨b, rest ++ tail, by simp, hf, rest, tail, rfl, hfs, hgs⟩

theorem Matches.append (hfs : Matches fs bs) (hgs : Matches gs bs') :
    Matches (fs ++ gs) (bs ++ bs') :=
  matches_append_iff.2 ⟨bs, bs', rfl, hfs, hgs⟩

/-! ## Two encodings of one layout -/

theorem length_flags_field (h : f.Matches b) : f.flags.length = b.length := by
  cases f with
  | bytes bs =>
      cases h
      simp [Field.flags]
  | flag v =>
      obtain ⟨x, rfl, -⟩ := h
      rfl

theorem Matches.length_flags (h : Matches fs bs) : (flags fs).length = bs.length := by
  induction h with
  | nil => rfl
  | cons hf hfs ih =>
      simp only [flags] at ih
      simp [flags, length_flags_field hf, ih]

/-- The byte strings have the same length, and where they differ both have a flag that is set. -/
def SameButFlags (marks : List Bool) (bs bs' : List UInt8) : Prop :=
  bs.length = bs'.length ∧ ∀ i : ℕ, bs[i]? = bs'[i]? ∨
    (marks[i]? = some true ∧ ∃ x y, bs[i]? = some x ∧ bs'[i]? = some y ∧ x ≠ 0 ∧ y ≠ 0)

theorem sameButFlags_field (h : f.Matches b) (h' : f.Matches b') : SameButFlags f.flags b b' := by
  cases f with
  | bytes bs =>
      cases h
      cases h'
      exact ⟨rfl, fun i => Or.inl rfl⟩
  | flag v =>
      obtain ⟨x, rfl, hx⟩ := h
      obtain ⟨y, rfl, hy⟩ := h'
      refine ⟨rfl, fun i => ?_⟩
      cases i with
      | succ i => exact Or.inl rfl
      | zero =>
          cases v with
          | true =>
              refine Or.inr ⟨rfl, x, y, rfl, rfl, ?_, ?_⟩
              · simpa using hx
              · simpa using hy
          | false =>
              have hx0 : x = 0 := by simpa using hx
              have hy0 : y = 0 := by simpa using hy
              exact Or.inl (by rw [hx0, hy0])

theorem SameButFlags.append {marks marks' : List Bool} (hlen : marks.length = b.length)
    (h : SameButFlags marks b b') (hs : SameButFlags marks' bs bs') :
    SameButFlags (marks ++ marks') (b ++ bs) (b' ++ bs') := by
  refine ⟨by simp [h.1, hs.1], fun i => ?_⟩
  by_cases hi : i < b.length
  · have hi' : i < b'.length := h.1 ▸ hi
    have himarks : i < marks.length := hlen ▸ hi
    simpa [List.getElem?_append, hi, hi', himarks] using h.2 i
  · have hi' : ¬ i < b'.length := h.1 ▸ hi
    have himarks : ¬ i < marks.length := hlen ▸ hi
    -- Both parts are left behind at the same index.
    simpa only [List.getElem?_append, hi, hi', himarks, if_false, hlen, ← h.1]
      using hs.2 (i - b.length)

/-- Two encodings of one layout differ in flags that are set at most. -/
theorem Matches.sameButFlags (h : Matches fs bs) (h' : Matches fs bs') :
    SameButFlags (flags fs) bs bs' := by
  induction h generalizing bs' with
  | nil =>
      cases h'
      exact ⟨rfl, fun i => Or.inl rfl⟩
  | cons hf hfs ih =>
      cases h' with
      | cons hf' hfs' =>
          exact (sameButFlags_field hf hf').append (length_flags_field hf) (ih hfs')

end Layout

/-! ## Decoders -/

/-- `p` reads exactly the encodings of the values that satisfy `P`, at every position. -/
def Recognizes {ε α : Type} (p : Decoder ε α) (L : α → Layout) (P : α → Prop) : Prop :=
  ∀ (data : List UInt8) (o : ℕ) (a : α) (o' : ℕ), o ≤ data.length →
    (p data o = .ok (a, o') ↔
      P a ∧ ∃ bs rest, data.drop o = bs ++ rest ∧ (L a).Matches bs ∧ o' = o + bs.length)

theorem Decoder.bind_eq_ok_iff {ε α β : Type} {p : Decoder ε α} {f : α → Decoder ε β}
    {data : List UInt8} {o : ℕ} {r : β × ℕ} :
    (p >>= f) data o = .ok r ↔ ∃ a o', p data o = .ok (a, o') ∧ f a data o' = .ok r := by
  have hbind : (p >>= f) data o = (p data o >>= fun s => f s.1 data s.2) := rfl
  rw [hbind]
  cases p data o with
  | error e =>
      constructor
      · intro h
        cases h
      · rintro ⟨a, o', h, -⟩
        cases h
  | ok s =>
      constructor
      · intro h
        exact ⟨s.1, s.2, rfl, h⟩
      · rintro ⟨a, o', h, hf⟩
        cases h
        exact hf

/-- Where the rest of a buffer splits, the position behind the first part leaves the second. -/
theorem drop_of_split {data bs rest : List UInt8} {o : ℕ} (ho : o ≤ data.length)
    (h : data.drop o = bs ++ rest) :
    o + bs.length ≤ data.length ∧ data.drop (o + bs.length) = rest := by
  have htotal := congrArg List.length h
  simp only [List.length_drop, List.length_append] at htotal
  refine ⟨by omega, ?_⟩
  rw [← List.drop_drop, h, List.drop_left]

namespace Recognizes

open Layout

variable {ε α β : Type} {p : Decoder ε α} {L : α → Layout} {P Q : α → Prop}

theorem congr (h : Recognizes p L P) (hPQ : ∀ a, P a ↔ Q a) : Recognizes p L Q := by
  intro data o a o' ho
  rw [h data o a o' ho, hPQ a]

theorem pure (a : α) : Recognizes (Pure.pure a : Decoder ε α) (fun _ => []) (· = a) := by
  intro data o b o' _
  have hpure : (Pure.pure a : Decoder ε α) data o = .ok (a, o) := rfl
  rw [hpure]
  constructor
  · intro h
    cases h
    exact ⟨rfl, [], data.drop o, rfl, Matches.nil, rfl⟩
  · rintro ⟨rfl, bs, rest, -, hbs, rfl⟩
    rw [matches_nil_iff.1 hbs]
    rfl

theorem takeExact (err : ε) (n : ℕ) :
    Recognizes (Decoder.takeExact err n) (fun bs => [.bytes bs]) (·.length = n) := by
  intro data o bs o' ho
  have hone : ∀ b, Matches [.bytes bs] b ↔ b = bs := by
    intro b
    simp [matches_cons_iff, Field.Matches]
  simp only [Decoder.takeExact, hone]
  by_cases hend : data.length < o + n
  · -- Fewer bytes are left than any encoding takes.
    simp only [hend, if_true, reduceCtorEq, false_iff]
    rintro ⟨hlen, b, rest, hdrop, rfl, -⟩
    have htotal := congrArg List.length hdrop
    simp only [List.length_drop, List.length_append] at htotal
    omega
  · -- The bytes that are taken are the only ones of this length.
    simp only [hend, if_false, Except.ok.injEq, Prod.mk.injEq]
    constructor
    · rintro ⟨rfl, rfl⟩
      have hlen : ((data.drop o).take n).length = n := by
        rw [List.length_take, List.length_drop]
        omega
      exact ⟨hlen, _, (data.drop o).drop n, (List.take_append_drop n _).symm, rfl, by rw [hlen]⟩
    · rintro ⟨hlen, b, rest, hdrop, rfl, rfl⟩
      rw [hdrop, ← hlen]
      simp

/-- A field, and then the rest: the value tells what the field was. -/
theorem field {f : α → Decoder ε β} {M : β → Layout} {R : β → Prop} (key : β → α)
    (hp : Recognizes p L P) (hkey : ∀ b, R b → P (key b))
    (hf : ∀ a, P a → Recognizes (f a) M (fun b => key b = a ∧ R b)) :
    Recognizes (p >>= f) (fun b => L (key b) ++ M b) R := by
  intro data o b o' ho
  rw [Decoder.bind_eq_ok_iff]
  constructor
  · rintro ⟨a, o₁, hfirst, hsecond⟩
    obtain ⟨hP, bs, rest, hsplit, hbs, rfl⟩ := (hp data o a o₁ ho).1 hfirst
    obtain ⟨hle, hrest⟩ := drop_of_split ho hsplit
    obtain ⟨⟨rfl, hR⟩, bs', rest', hsplit', hbs', rfl⟩ := (hf a hP data _ b o' hle).1 hsecond
    refine ⟨hR, bs ++ bs', rest', ?_, hbs.append hbs', by simp [Nat.add_assoc]⟩
    rw [hsplit, ← hrest, hsplit', List.append_assoc]
  · rintro ⟨hR, bs, rest, hsplit, hbs, rfl⟩
    have hP : P (key b) := hkey b hR
    obtain ⟨b₁, b₂, rfl, hb₁, hb₂⟩ := matches_append_iff.1 hbs
    rw [List.append_assoc] at hsplit
    obtain ⟨hle, hrest⟩ := drop_of_split ho hsplit
    have hfirst := (hp data o (key b) _ ho).2 ⟨hP, b₁, b₂ ++ rest, hsplit, hb₁, rfl⟩
    refine ⟨key b, o + b₁.length, hfirst, ?_⟩
    exact (hf (key b) hP data _ b _ hle).2
      ⟨⟨rfl, hR⟩, b₂, rest, hrest, hb₂, by simp [Nat.add_assoc]⟩

/-- The last field, from which the value is made. -/
theorem last {g : α → β} {R : β → Prop} (key : β → α) (hp : Recognizes p L P)
    (hkey : ∀ a, P a → key (g a) = a) (hmake : ∀ b, R b ↔ P (key b) ∧ b = g (key b)) :
    Recognizes (p >>= fun a => Pure.pure (g a)) (fun b => L (key b)) R := by
  have hfield : Recognizes (p >>= fun a => Pure.pure (g a)) (fun b => L (key b) ++ []) R := by
    refine hp.field key (fun b hR => ((hmake b).1 hR).1) fun a hP => ?_
    refine (pure (g a)).congr fun b => ?_
    constructor
    · rintro rfl
      have ha : key (g a) = a := hkey a hP
      refine ⟨ha, (hmake (g a)).2 ?_⟩
      rw [ha]
      exact ⟨hP, rfl⟩
    · rintro ⟨rfl, hR⟩
      exact ((hmake b).1 hR).2
  simpa only [List.append_nil] using hfield

/-- A byte that is read as a flag. -/
theorem flag {p : Decoder ε UInt8} (hp : Recognizes p (fun x => [.bytes [x]]) fun _ => True) :
    Recognizes (p >>= fun x => Pure.pure (x != 0)) (fun b => [.flag b]) fun _ => True := by
  intro data o b o' ho
  rw [Decoder.bind_eq_ok_iff]
  constructor
  · rintro ⟨x, o₁, hread, hpure⟩
    obtain ⟨-, bs, rest, hsplit, hbs, rfl⟩ := (hp data o x o₁ ho).1 hread
    cases hpure
    have hx : bs = [x] := by simpa [matches_cons_iff, Field.Matches] using hbs
    refine ⟨trivial, bs, rest, hsplit, ?_, rfl⟩
    exact matches_cons_iff.2 ⟨bs, [], by simp, ⟨x, hx, rfl⟩, Matches.nil⟩
  · rintro ⟨-, bs, rest, hsplit, hbs, rfl⟩
    obtain ⟨b', tail, rfl, ⟨x, rfl, rfl⟩, htail⟩ := matches_cons_iff.1 hbs
    obtain rfl := matches_nil_iff.1 htail
    refine ⟨x, _, (hp data o x _ ho).2 ⟨trivial, [x], rest, hsplit, ?_, rfl⟩, rfl⟩
    exact matches_cons_iff.2 ⟨[x], [], by simp, rfl, Matches.nil⟩

/-- Counted repetition. -/
theorem many (hp : Recognizes p L P) (n : ℕ) :
    Recognizes (Decoder.many p n) (fun as => as.flatMap L)
      (fun as => as.length = n ∧ ∀ a ∈ as, P a) := by
  induction n with
  | zero =>
      refine fun data o as o' ho => ?_
      have hnil := pure (ε := ε) ([] : List α) data o as o' ho
      refine hnil.trans ?_
      constructor
      · rintro ⟨rfl, h⟩
        exact ⟨⟨rfl, by simp⟩, h⟩
      · rintro ⟨⟨hlen, -⟩, h⟩
        obtain rfl := List.length_eq_zero_iff.1 hlen
        exact ⟨rfl, h⟩
  | succ n ih =>
      intro data o as o' ho
      have hmany : Decoder.many p (n + 1) =
          p >>= fun x => Decoder.many p n >>= fun xs => Pure.pure (x :: xs) := rfl
      rw [hmany, Decoder.bind_eq_ok_iff]
      simp only [Decoder.bind_eq_ok_iff]
      constructor
      · rintro ⟨a, o₁, hfirst, as, o₂, hrest, hpure⟩
        cases hpure
        obtain ⟨hP, bs, rest, hsplit, hbs, rfl⟩ := (hp data o a o₁ ho).1 hfirst
        obtain ⟨hle, hdrop⟩ := drop_of_split ho hsplit
        obtain ⟨⟨hlen, hall⟩, bs', rest', hsplit', hbs', rfl⟩ := (ih data _ as _ hle).1 hrest
        refine ⟨⟨by simp [hlen], ?_⟩, bs ++ bs', rest', ?_, ?_, by simp [Nat.add_assoc]⟩
        · simpa using ⟨hP, hall⟩
        · rw [hsplit, ← hdrop, hsplit', List.append_assoc]
        · simpa using hbs.append hbs'
      · rintro ⟨⟨hlen, hall⟩, bs, rest, hsplit, hbs, rfl⟩
        cases as with
        | nil => cases hlen
        | cons a as =>
            obtain ⟨hP, hall⟩ := List.forall_mem_cons.1 hall
            obtain ⟨b₁, b₂, rfl, hb₁, hb₂⟩ := matches_append_iff.1 hbs
            rw [List.append_assoc] at hsplit
            obtain ⟨hle, hdrop⟩ := drop_of_split ho hsplit
            have hfirst := (hp data o a _ ho).2 ⟨hP, b₁, _, hsplit, hb₁, rfl⟩
            have hrest := (ih data _ as _ hle).2
              ⟨⟨by simpa using hlen, hall⟩, b₂, rest, hdrop, hb₂, rfl⟩
            refine ⟨a, o + b₁.length, hfirst, as, _, hrest, ?_⟩
            simp only [List.length_append, ← Nat.add_assoc]
            rfl

/-- On a whole buffer. -/
theorem run_iff (hp : Recognizes p L P) {data : List UInt8} {a : α} :
    p.run data = .ok (a, data.length) ↔ P a ∧ (L a).Matches data := by
  have h := hp data 0 a data.length (Nat.zero_le _)
  refine h.trans ?_
  constructor
  · rintro ⟨hP, bs, rest, hsplit, hbs, hlen⟩
    have hrest : rest = [] := by
      have htotal := congrArg List.length hsplit
      simp only [List.drop_zero, List.length_append] at htotal
      exact List.eq_nil_of_length_eq_zero (by omega)
    rw [List.drop_zero, hrest, List.append_nil] at hsplit
    exact ⟨hP, hsplit ▸ hbs⟩
  · rintro ⟨hP, hdata⟩
    exact ⟨hP, data, [], by simp, hdata, by simp⟩

/-- No encoding is a proper prefix of another one. -/
theorem prefix_free (hp : Recognizes p L P) {bs more : List UInt8} {a a' : α} (hP : P a)
    (ha : (L a).Matches bs) (hP' : P a') (ha' : (L a').Matches (bs ++ more)) : more = [] := by
  -- The decoder would read both values at the beginning of the longer one.
  have hshort := (hp (bs ++ more) 0 a bs.length (Nat.zero_le _)).2
    ⟨hP, bs, more, rfl, ha, by simp⟩
  have hlong := (hp (bs ++ more) 0 a' (bs ++ more).length (Nat.zero_le _)).2
    ⟨hP', bs ++ more, [], by simp, ha', by simp⟩
  have hlength : bs.length = (bs ++ more).length :=
    congrArg Prod.snd (Except.ok.inj (hshort.symm.trans hlong))
  simpa using hlength

end Recognizes
end Lib
