import Mathlib.Algebra.Group.Nat.Defs
import Quasar.Lib.Layout

/-!
# Checked — readers as a machine runs them

A checked reader keeps its position in a 64-bit word, whose sum may wrap.  Its slices, its indexings
and its conversions of slices to arrays panic when they are out of bounds.  It also records every
request for capacity together with what is unread at that moment, also when it fails later on.
`Simulates` relates it to a decoder over natural positions, and `Requests` says where in the input it
asks for capacity.
-/

namespace Lib

/-- Why a reader stops before its end. -/
inductive Stop (ε : Type)
  | fail (e : ε)
  | panic (message : String)

/-- A request for capacity: the number of elements, the least size of an encoded element, and the
number of bytes that are still unread. -/
structure Reservation where
  count : ℕ
  elementSize : ℕ
  unread : ℕ
  deriving DecidableEq

structure Outcome (ε α : Type) where
  result : Except (Stop ε) α
  reserved : List Reservation

def Outcome.Panics {ε α : Type} (o : Outcome ε α) : Prop :=
  ∃ message, o.result = .error (.panic message)

/-- What follows runs when the first part has a value; the requests of the first part stay. -/
def Outcome.andThen {ε α β : Type} (first : Outcome ε α) (next : α → Outcome ε β) : Outcome ε β :=
  match first.result with
  | .error stop =>
      { result := .error stop
        reserved := first.reserved }
  | .ok a =>
      { result := (next a).result
        reserved := first.reserved ++ (next a).reserved }

/-- Readers over a buffer and a 64-bit position. -/
def Checked (ε α : Type) := List UInt8 → UInt64 → Outcome ε (α × UInt64)

theorem Outcome.not_panics {ε α : Type} {o : Outcome ε α} {r : Except ε α}
    (h : o.result = r.mapError Stop.fail) : ¬ o.Panics := by
  rintro ⟨message, hpanic⟩
  rw [hpanic] at h
  cases r with
  | error e => cases h
  | ok a => cases h

/-- Buffers that a machine can hold: at most half of the 64-bit address space. -/
def Addressable (data : List UInt8) : Prop :=
  data.length < 2 ^ 63

namespace Checked

variable {ε α β : Type}

instance : Monad (Checked ε) where
  pure a := fun _ pos =>
    { result := .ok (a, pos)
      reserved := [] }
  bind m f := fun data pos => (m data pos).andThen fun s => f s.1 data s.2

/-! ## Primitives -/

def fail (e : ε) : Checked ε α := fun _ _ =>
  { result := .error (.fail e)
    reserved := [] }

def panic (message : String) : Checked ε α := fun _ _ =>
  { result := .error (.panic message)
    reserved := [] }

def position : Checked ε UInt64 := fun _ pos =>
  { result := .ok (pos, pos)
    reserved := [] }

def seek (target : UInt64) : Checked ε Unit := fun _ _ =>
  { result := .ok ((), target)
    reserved := [] }

def length : Checked ε UInt64 := fun data pos =>
  { result := .ok (UInt64.ofNat data.length, pos)
    reserved := [] }

/-- `&data[start..stop]` -/
def slice (start stop : UInt64) : Checked ε (List UInt8) := fun data pos =>
  if start ≤ stop ∧ stop.toNat ≤ data.length then
    { result := .ok ((data.drop start.toNat).take (stop.toNat - start.toNat), pos)
      reserved := [] }
  else
    { result := .error (.panic "range out of bounds for slice")
      reserved := [] }

/-- `bytes[i]` -/
def index (bytes : List UInt8) (i : ℕ) : Checked ε UInt8 :=
  match bytes[i]? with
  | some b => pure b
  | none => panic "index out of bounds"

/-- `bytes.try_into().unwrap()` to an array of `n` bytes. -/
def toArray (n : ℕ) (bytes : List UInt8) : Checked ε { bs : List UInt8 // bs.length = n } :=
  if h : bytes.length = n then pure ⟨bytes, h⟩
  else panic "called `Result::unwrap()` on an `Err` value"

/-- `Vec::with_capacity(count)`, for elements that take at least `elementSize` bytes each. -/
def withCapacity (count elementSize : ℕ) : Checked ε Unit := fun data pos =>
  { result := .ok ((), pos)
    reserved :=
      [{ count := count
         elementSize := elementSize
         unread := data.length - pos.toNat }] }

/-- `m` repeated `n` times, results in order. -/
def many (m : Checked ε α) : ℕ → Checked ε (List α)
  | 0 => pure []
  | n + 1 => do
      let x ← m
      let xs ← many m n
      pure (x :: xs)

def run (m : Checked ε α) (data : List UInt8) : Outcome ε α :=
  { result := (m data 0).result.map Prod.fst
    reserved := (m data 0).reserved }

/-! ## Runs of a sequence -/

section Bind

variable {m : Checked ε α} {f : α → Checked ε β} {data : List UInt8} {pos pos' : UInt64} {a : α}
  {stop : Stop ε}

theorem bind_of_ok (h : (m data pos).result = .ok (a, pos')) :
    ((m >>= f) data pos).result = (f a data pos').result ∧
      ((m >>= f) data pos).reserved = (m data pos).reserved ++ (f a data pos').reserved := by
  have hbind : (m >>= f) data pos = (m data pos).andThen fun s => f s.1 data s.2 := rfl
  rw [hbind, Outcome.andThen, h]
  exact ⟨rfl, rfl⟩

theorem bind_of_error (h : (m data pos).result = .error stop) :
    ((m >>= f) data pos).result = .error stop ∧
      ((m >>= f) data pos).reserved = (m data pos).reserved := by
  have hbind : (m >>= f) data pos = (m data pos).andThen fun s => f s.1 data s.2 := rfl
  rw [hbind, Outcome.andThen, h]
  exact ⟨rfl, rfl⟩

theorem pure_bind : (pure a >>= f : Checked ε β) = f a := rfl

theorem bind_pure (m : Checked ε α) : m >>= pure = m := by
  funext data pos
  have hbind : (m >>= pure) data pos =
      (m data pos).andThen fun s => (pure s.1 : Checked ε α) data s.2 := rfl
  rw [hbind, Outcome.andThen]
  obtain ⟨result, reserved⟩ := m data pos
  cases result with
  | error stop => rfl
  | ok s =>
      have hnil : reserved ++ [] = reserved := List.append_nil reserved
      exact congrArg (Outcome.mk _) hnil

end Bind

end Checked

/-! ## Simulation of decoders -/

/-- On every buffer that fits in memory, and from every position in it, the checked reader does what
the decoder does: the positions are the same, every error is one of the decoder's, and so nothing
panics. -/
structure Simulates {ε α : Type} (m : Checked ε α) (p : Decoder ε α) : Prop where
  ok : ∀ {data pos a o}, Addressable data → pos.toNat ≤ data.length →
    p data pos.toNat = .ok (a, o) →
    o ≤ data.length ∧ (m data pos).result = .ok (a, UInt64.ofNat o)
  error : ∀ {data pos e}, Addressable data → pos.toNat ≤ data.length →
    p data pos.toNat = .error e → (m data pos).result = .error (.fail e)

theorem toNat_ofNat_of_le {data : List UInt8} {o : ℕ} (hdata : Addressable data)
    (ho : o ≤ data.length) : (UInt64.ofNat o).toNat = o := by
  unfold Addressable at hdata
  exact UInt64.toNat_ofNat_of_lt' (by simp only [UInt64.size]; omega)

namespace Simulates

variable {ε α β : Type} {m : Checked ε α} {p : Decoder ε α} {P : α → Prop}

theorem pure (a : α) : Simulates (Pure.pure a : Checked ε α) (Pure.pure a) := by
  constructor
  · intro data pos b o _ hpos h
    cases h
    exact ⟨hpos, by rw [UInt64.ofNat_toNat]; rfl⟩
  · intro data pos e _ _ h
    cases h

/-- A sequence of two parts; the second one may rely on what the first one returns. -/
theorem bind {f : α → Checked ε β} {g : α → Decoder ε β} (hm : Simulates m p) (hP : Returns p P)
    (hf : ∀ a, P a → Simulates (f a) (g a)) : Simulates (m >>= f) (p >>= g) := by
  constructor
  · intro data pos b o hdata hpos h
    obtain ⟨a, o₁, hfirst, hsecond⟩ := Decoder.bind_eq_ok_iff.1 h
    obtain ⟨hle, hresult⟩ := hm.ok hdata hpos hfirst
    -- The position behind the first part is in the buffer, so the word holds it.
    have hnat := toNat_ofNat_of_le hdata hle
    rw [(Checked.bind_of_ok hresult).1]
    exact (hf a (hP _ _ _ _ hfirst)).ok hdata (hnat.symm ▸ hle) (hnat.symm ▸ hsecond)
  · intro data pos e hdata hpos h
    have hbind : (p >>= g) data pos.toNat = (p data pos.toNat >>= fun s => g s.1 data s.2) := rfl
    rw [hbind] at h
    cases hfirst : p data pos.toNat with
    | error e' =>
        rw [hfirst] at h
        cases h
        exact (Checked.bind_of_error (hm.error hdata hpos hfirst)).1
    | ok s =>
        rw [hfirst] at h
        obtain ⟨hle, hresult⟩ := hm.ok hdata hpos hfirst
        have hnat := toNat_ofNat_of_le hdata hle
        rw [(Checked.bind_of_ok hresult).1]
        exact (hf s.1 (hP _ _ _ _ hfirst)).error hdata (hnat.symm ▸ hle) (hnat.symm ▸ h)

/-- A request for capacity changes nothing in what is read. -/
theorem withCapacity (n k : ℕ) (hm : Simulates m p) :
    Simulates (Checked.withCapacity n k >>= fun _ => m) p := by
  constructor
  · intro data pos a o hdata hpos h
    rw [(Checked.bind_of_ok rfl).1]
    exact hm.ok hdata hpos h
  · intro data pos e hdata hpos h
    rw [(Checked.bind_of_ok rfl).1]
    exact hm.error hdata hpos h

theorem many (hm : Simulates m p) (n : ℕ) : Simulates (Checked.many m n) (Decoder.many p n) := by
  induction n with
  | zero => exact pure []
  | succ n ih =>
      have hany : ∀ {γ : Type} (q : Decoder ε γ), Returns q fun _ => True :=
        fun _ _ _ _ _ _ => trivial
      exact hm.bind (hany p) fun x _ => ih.bind (hany _) fun xs _ => pure (x :: xs)

/-- A conversion of as many bytes as the array takes. -/
theorem toArray {n : ℕ} {bytes : List UInt8} (h : bytes.length = n)
    {f : { bs : List UInt8 // bs.length = n } → Checked ε α} (hf : Simulates (f ⟨bytes, h⟩) p) :
    Simulates (Checked.toArray n bytes >>= f) p := by
  rw [Checked.toArray, dif_pos h, Checked.pure_bind]
  exact hf

/-- On a whole buffer. -/
theorem run_eq (hm : Simulates m p) {data : List UInt8} (hdata : Addressable data) :
    (m.run data).result = ((p.run data).map Prod.fst).mapError Stop.fail := by
  have hzero : p.run data = p data (0 : UInt64).toNat := rfl
  rw [hzero, Checked.run]
  cases h : p data (0 : UInt64).toNat with
  | ok s =>
      rw [(hm.ok hdata (Nat.zero_le _) h).2]
      rfl
  | error e =>
      rw [hm.error hdata (Nat.zero_le _) h]
      rfl

end Simulates

/-! ## Requests for capacity -/

/-- The reader asks for no capacity at all. -/
def Silent {ε α : Type} (m : Checked ε α) : Prop :=
  ∀ data pos, (m data pos).reserved = []

/-- The reader asks for capacity for `n` elements of `k` bytes exactly where it has read a byte
string `pre` with `C pre n k`, on every buffer that fits in memory. -/
def Requests {ε α : Type} (m : Checked ε α) (C : List UInt8 → ℕ → ℕ → Prop) : Prop :=
  ∀ (data : List UInt8) (pos : UInt64) (r : Reservation), Addressable data →
    pos.toNat ≤ data.length →
    (r ∈ (m data pos).reserved ↔ ∃ pre rest, data.drop pos.toNat = pre ++ rest ∧
      C pre r.count r.elementSize ∧ r.unread = rest.length)

namespace Silent

variable {ε α β : Type} {m : Checked ε α} {f : α → Checked ε β}

theorem pure (a : α) : Silent (Pure.pure a : Checked ε α) :=
  fun _ _ => rfl

theorem bind (hm : Silent m) (hf : ∀ a, Silent (f a)) : Silent (m >>= f) := by
  intro data pos
  cases h : (m data pos).result with
  | error stop => rw [(Checked.bind_of_error h).2, hm data pos]
  | ok s => rw [(Checked.bind_of_ok h).2, hm data pos, hf s.1 data s.2, List.append_nil]

theorem toArray (n : ℕ) (bytes : List UInt8) :
    Silent (Checked.toArray n bytes : Checked ε { bs : List UInt8 // bs.length = n }) := by
  intro data pos
  rw [Checked.toArray]
  split
  · rfl
  · rfl

theorem index (bytes : List UInt8) (i : ℕ) :
    Silent (Checked.index bytes i : Checked ε UInt8) := by
  intro data pos
  rw [Checked.index]
  cases bytes[i]? with
  | none => rfl
  | some b => rfl

end Silent

namespace Requests

variable {ε α β : Type} {m : Checked ε α} {p : Decoder ε α} {L : α → Layout} {P : α → Prop}
  {f : α → Checked ε β} {C C' : List UInt8 → ℕ → ℕ → Prop}

theorem congr (h : Requests m C) (hC : ∀ pre n k, C pre n k ↔ C' pre n k) : Requests m C' := by
  intro data pos r hdata hpos
  rw [h data pos r hdata hpos]
  simp only [hC]

theorem silent (h : Silent m) : Requests m fun _ _ _ => False := by
  intro data pos r _ _
  simp [h data pos]

/-- What the first part asks for, and what the second asks for behind the bytes of the first. -/
theorem bind {D : α → List UInt8 → ℕ → ℕ → Prop} (hC : Requests m C) (hm : Simulates m p)
    (hp : Recognizes p L P) (hD : ∀ a, P a → Requests (f a) (D a)) :
    Requests (m >>= f) fun pre n k =>
      C pre n k ∨ ∃ a bs tail, P a ∧ (L a).Matches bs ∧ pre = bs ++ tail ∧ D a tail n k := by
  intro data pos r hdata hpos
  cases hrun : p data pos.toNat with
  | error e =>
      -- The second part does not run, and nothing in the buffer is an encoding for the first.
      rw [(Checked.bind_of_error (hm.error hdata hpos hrun)).2, hC data pos r hdata hpos]
      constructor
      · rintro ⟨pre, rest, hsplit, h, hunread⟩
        exact ⟨pre, rest, hsplit, Or.inl h, hunread⟩
      · rintro ⟨pre, rest, hsplit, h | ⟨a, bs, tail, hP, hbs, rfl, -⟩, hunread⟩
        · exact ⟨pre, rest, hsplit, h, hunread⟩
        · rw [List.append_assoc] at hsplit
          have hok := (hp data _ a _ hpos).2 ⟨hP, bs, _, hsplit, hbs, rfl⟩
          rw [hrun] at hok
          cases hok
  | ok s =>
      obtain ⟨a, o⟩ := s
      obtain ⟨hP, bs, rest, hsplit, hbs, rfl⟩ := (hp data _ a o hpos).1 hrun
      obtain ⟨hle, hrest⟩ := drop_of_split hpos hsplit
      obtain ⟨-, hresult⟩ := hm.ok hdata hpos hrun
      have hnat := toNat_ofNat_of_le hdata hle
      rw [(Checked.bind_of_ok hresult).2, List.mem_append, hC data pos r hdata hpos,
        hD a hP data _ r hdata (hnat.symm ▸ hle), hnat]
      constructor
      · rintro (⟨pre, rest', hpre, h, hunread⟩ | ⟨pre, rest', hpre, h, hunread⟩)
        · exact ⟨pre, rest', hpre, Or.inl h, hunread⟩
        · refine ⟨bs ++ pre, rest', ?_, Or.inr ⟨a, bs, pre, hP, hbs, rfl, h⟩, hunread⟩
          rw [hsplit, ← hrest, hpre, List.append_assoc]
      · rintro ⟨pre, rest', hpre, h | ⟨a', bs', tail, hP', hbs', rfl, h⟩, hunread⟩
        · exact Or.inl ⟨pre, rest', hpre, h, hunread⟩
        · -- The decoder returns one value only, so the two readings of the first part are the same.
          rw [List.append_assoc] at hpre
          have hok := (hp data _ a' _ hpos).2 ⟨hP', bs', _, hpre, hbs', rfl⟩
          rw [hrun] at hok
          obtain ⟨rfl, hlength⟩ := Prod.mk.inj (Except.ok.inj hok)
          rw [hlength]
          exact Or.inr ⟨tail, rest', (drop_of_split hpos hpre).2, h, hunread⟩

/-- A part that asks for nothing, and then the rest. -/
theorem after {D : α → List UInt8 → ℕ → ℕ → Prop} (hm : Silent m) (hs : Simulates m p)
    (hp : Recognizes p L P) (hD : ∀ a, P a → Requests (f a) (D a)) :
    Requests (m >>= f) fun pre n k =>
      ∃ a bs tail, P a ∧ (L a).Matches bs ∧ pre = bs ++ tail ∧ D a tail n k :=
  ((silent hm).bind hs hp hD).congr fun _ _ _ => by rw [false_or]

/-- A part, and then a rest that asks for nothing. -/
theorem before (hC : Requests m C) (hf : ∀ a, Silent (f a)) : Requests (m >>= f) C := by
  intro data pos r hdata hpos
  rw [← hC data pos r hdata hpos]
  cases h : (m data pos).result with
  | error stop => rw [(Checked.bind_of_error h).2]
  | ok s => rw [(Checked.bind_of_ok h).2, hf s.1 data s.2, List.append_nil]

/-- The request itself, and then the rest. -/
theorem withCapacity (n k : ℕ) (hC : Requests m C) :
    Requests (Checked.withCapacity n k >>= fun _ => m) fun pre n' k' =>
      (pre = [] ∧ n' = n ∧ k' = k) ∨ C pre n' k' := by
  intro data pos r hdata hpos
  rw [(Checked.bind_of_ok rfl).2, List.mem_append, hC data pos r hdata hpos, Checked.withCapacity,
    List.mem_singleton]
  constructor
  · rintro (rfl | ⟨pre, rest, hsplit, h, hunread⟩)
    · exact ⟨[], data.drop pos.toNat, rfl, Or.inl ⟨rfl, rfl, rfl⟩, by simp⟩
    · exact ⟨pre, rest, hsplit, Or.inr h, hunread⟩
  · rintro ⟨pre, rest, hsplit, ⟨rfl, hn, hk⟩ | h, hunread⟩
    · refine Or.inl ?_
      have hlength := congrArg List.length hsplit
      simp only [List.length_drop, List.nil_append] at hlength
      cases r
      simp only [Reservation.mk.injEq]
      exact ⟨hn, hk, by simpa [← hlength] using hunread⟩
    · exact Or.inr ⟨pre, rest, hsplit, h, hunread⟩

/-- In a repetition an element asks behind fewer than `n` elements. -/
theorem many (hC : Requests m C) (hm : Simulates m p) (hp : Recognizes p L P) (n : ℕ) :
    Requests (Checked.many m n) fun pre c k => ∃ (as : List α) (bs tail : List UInt8),
      as.length < n ∧ (∀ a ∈ as, P a) ∧ Layout.Matches (as.flatMap L) bs ∧ pre = bs ++ tail ∧
        C tail c k := by
  induction n with
  | zero => exact (silent (Silent.pure [])).congr fun _ _ _ => by simp
  | succ n ih =>
      have hnext : ∀ a, P a → Requests (Checked.many m n >>= fun as => Pure.pure (a :: as)) _ :=
        fun a _ => ih.before fun as => Silent.pure (a :: as)
      refine (hC.bind hm hp hnext).congr fun pre c k => ?_
      constructor
      · rintro (h | ⟨a, bs, tail, hP, hbs, rfl, as, bs', tail', hlen, hall, hbs', rfl, h⟩)
        · exact ⟨[], [], pre, by simp, by simp, Layout.Matches.nil, rfl, h⟩
        · refine ⟨a :: as, bs ++ bs', tail', by simpa using hlen, ?_, ?_, by simp, h⟩
          · simpa using ⟨hP, hall⟩
          · simpa using hbs.append hbs'
      · rintro ⟨as, bs, tail, hlen, hall, hbs, rfl, h⟩
        cases as with
        | nil =>
            rw [Layout.matches_nil_iff.1 hbs]
            exact Or.inl h
        | cons a as =>
            obtain ⟨hP, hall⟩ := List.forall_mem_cons.1 hall
            obtain ⟨b₁, b₂, rfl, hb₁, hb₂⟩ := Layout.matches_append_iff.1 hbs
            exact Or.inr ⟨a, b₁, b₂ ++ tail, hP, hb₁, by simp, as, b₂, tail,
              by simpa using hlen, hall, hb₂, rfl, h⟩

end Requests

/-! ## Requests that the input backs -/

/-- As many bytes are unread as the elements take at least. -/
def Reservation.Backed (r : Reservation) : Prop :=
  r.count * r.elementSize ≤ r.unread

/-- A run that reaches its end has only made requests that the input backs. -/
def Thrifty {ε α : Type} (m : Checked ε α) : Prop :=
  ∀ (data : List UInt8) (pos : UInt64) (s : α × UInt64), Addressable data →
    pos.toNat ≤ data.length → (m data pos).result = .ok s → ∀ r ∈ (m data pos).reserved, r.Backed

namespace Thrifty

variable {ε α β : Type} {m : Checked ε α} {p : Decoder ε α} {L : α → Layout} {P : α → Prop}

theorem silent (h : Silent m) : Thrifty m := by
  intro data pos s _ _ _ r hr
  rw [h data pos] at hr
  cases hr

theorem bind {f : α → Checked ε β} (h : Thrifty m) (hm : Simulates m p)
    (hf : ∀ a, Thrifty (f a)) : Thrifty (m >>= f) := by
  intro data pos s hdata hpos hresult r hr
  cases hrun : p data pos.toNat with
  | error e =>
      -- The run would not reach its end.
      rw [(Checked.bind_of_error (hm.error hdata hpos hrun)).1] at hresult
      cases hresult
  | ok first =>
      obtain ⟨hle, hfirst⟩ := hm.ok hdata hpos hrun
      obtain ⟨hsecond, hreserved⟩ := Checked.bind_of_ok (f := f) hfirst
      rw [hsecond] at hresult
      rw [hreserved, List.mem_append] at hr
      rcases hr with hr | hr
      · exact h data pos _ hdata hpos hfirst r hr
      · have hnat := toNat_ofNat_of_le hdata hle
        exact hf first.1 data _ s hdata (hnat.symm ▸ hle) hresult r hr

theorem many (h : Thrifty m) (hm : Simulates m p) (n : ℕ) : Thrifty (Checked.many m n) := by
  induction n with
  | zero => exact silent (Silent.pure [])
  | succ n ih =>
      exact h.bind hm fun x => ih.bind (hm.many n) fun xs => silent (Silent.pure (x :: xs))

/-- Elements of at least `k` bytes each take at least `n * k` bytes together. -/
theorem mul_le_length {k : ℕ} (hsize : ∀ a bs, P a → (L a).Matches bs → k ≤ bs.length) {as : List α}
    {bs : List UInt8} (hall : ∀ a ∈ as, P a) (hbs : Layout.Matches (as.flatMap L) bs) :
    as.length * k ≤ bs.length := by
  induction as generalizing bs with
  | nil => simp
  | cons a as ih =>
      obtain ⟨hP, hall⟩ := List.forall_mem_cons.1 hall
      obtain ⟨b, rest, rfl, hb, hrest⟩ := Layout.matches_append_iff.1 hbs
      calc (a :: as).length * k = as.length * k + k := by rw [List.length_cons, Nat.succ_mul]
        _ ≤ rest.length + b.length := Nat.add_le_add (ih hall hrest) (hsize a b hP hb)
        _ = (b ++ rest).length := by rw [List.length_append, Nat.add_comm]

/-- The capacity for elements that are all read afterwards. -/
theorem withCapacity {k : ℕ} {f : List α → Checked ε β} (h : Thrifty m) (hm : Simulates m p)
    (hp : Recognizes p L P) (hsize : ∀ a bs, P a → (L a).Matches bs → k ≤ bs.length)
    (hf : ∀ as, Thrifty (f as)) (n : ℕ) :
    Thrifty (Checked.withCapacity n k >>= fun _ => Checked.many m n >>= f) := by
  intro data pos s hdata hpos hresult r hr
  have hrequest : (Checked.withCapacity n k data pos : Outcome ε (Unit × UInt64)).result =
      .ok ((), pos) := rfl
  obtain ⟨hrest, hreserved⟩ := Checked.bind_of_ok (f := fun _ => Checked.many m n >>= f) hrequest
  rw [hrest] at hresult
  rw [hreserved, Checked.withCapacity, List.mem_append, List.mem_singleton] at hr
  rcases hr with rfl | hr
  · -- The repetition has reached its end, so the elements are there.
    cases hrun : Decoder.many p n data pos.toNat with
    | error e =>
        rw [(Checked.bind_of_error ((hm.many n).error hdata hpos hrun)).1] at hresult
        cases hresult
    | ok as =>
        obtain ⟨⟨hlength, hall⟩, bs, rest, hsplit, hbs, -⟩ := (hp.many n data _ _ _ hpos).1 hrun
        have htotal := congrArg List.length hsplit
        simp only [List.length_drop, List.length_append] at htotal
        have hle := mul_le_length hsize hall hbs
        rw [hlength] at hle
        change n * k ≤ data.length - pos.toNat
        omega
  · exact (h.many hm n).bind (hm.many n) hf data pos s hdata hpos hresult r hr

end Thrifty
end Lib
