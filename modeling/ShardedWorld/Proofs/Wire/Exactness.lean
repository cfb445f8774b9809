import Mathlib.Algebra.Group.Nat.Defs
import ShardedWorld.Wire.Message

/-! Exact wire forms.

A codec is exact if it reads back what it wrote, whatever follows, and reads nothing else. The
numbers, text and the combinators are exact.
-/

set_option autoImplicit false

namespace ShardedWorld.Wire

theorem map_eq_ok {ε α β : Type} {outcome : Except ε α} {f : α → β} {b : β} :
    outcome.map f = .ok b ↔ ∃ a, outcome = .ok a ∧ f a = b := by
  cases outcome <;> simp [Except.map]

/-! Numbers as bytes. -/

@[simp]
theorem littleBytes_length (width n : Nat) : (littleBytes width n).length = width := by
  induction width generalizing n with
  | zero => rfl
  | succ width ih => simp [littleBytes, ih]

theorem readLittle_littleBytes (width : Nat) {n : Nat} (fits : n < 256 ^ width) (tail : Bytes) :
    readLittle width (littleBytes width n ++ tail) = .ok (n, tail) := by
  induction width generalizing n with
  | zero =>
    have none : n = 0 := by simpa using fits
    rw [none]
    rfl
  | succ width ih =>
    have high : n / 256 < 256 ^ width := by
      rw [Nat.pow_succ] at fits
      exact Nat.div_lt_of_lt_mul (by omega)
    have low : (UInt8.ofNat n).toNat + 256 * (n / 256) = n := by
      rw [UInt8.toNat_ofNat']
      omega
    simp only [littleBytes, List.cons_append, readLittle, ih high, Except.map, low]

theorem readLittle_eq_ok {width n : Nat} {bytes rest : Bytes}
    (done : readLittle width bytes = .ok (n, rest)) :
    n < 256 ^ width ∧ bytes = littleBytes width n ++ rest := by
  induction width generalizing n bytes with
  | zero =>
    obtain ⟨rfl, rfl⟩ := Prod.mk.inj (Except.ok.inj done)
    simp [littleBytes]
  | succ width ih =>
    cases bytes with
    | nil => cases done
    | cons b bytes =>
      obtain ⟨⟨high, left⟩, outcome, made⟩ := map_eq_ok.mp done
      obtain ⟨rfl, rfl⟩ := Prod.mk.inj made
      obtain ⟨fits, rfl⟩ := ih outcome
      have small := b.toNat_lt
      have first : UInt8.ofNat (b.toNat + 256 * high) = b := by
        apply UInt8.toNat_inj.mp
        rw [UInt8.toNat_ofNat']
        omega
      have others : (b.toNat + 256 * high) / 256 = high := by omega
      refine ⟨?_, ?_⟩
      · rw [Nat.pow_succ]
        omega
      · simp only [littleBytes, first, others, List.cons_append]

namespace Codec

variable {α β : Type}

def lengthBound : Nat := 256 ^ 8

/-- On the values with `P`, and on no others, writing and reading are inverse to each other. Values
too long for a length in eight bytes are left out. -/
structure Exact (c : Codec α) (P : α → Prop) : Prop where
  complete : ∀ {a : α} (tail : Bytes), P a → (c.write a).length < lengthBound →
    c.read (c.write a ++ tail) = .ok (a, tail)
  faithful : ∀ {bytes rest : Bytes} {a : α}, c.read bytes = .ok (a, rest) →
    P a ∧ bytes = c.write a ++ rest

theorem readAs_eq_ok {c : Codec α} {make : α → β} {bytes rest : Bytes} {b : β} :
    c.readAs make bytes = .ok (b, rest) ↔
      ∃ a, c.read bytes = .ok (a, rest) ∧ make a = b := by
  unfold readAs
  rw [map_eq_ok]
  constructor
  · rintro ⟨⟨a, left⟩, found, made⟩
    obtain ⟨same, rfl⟩ := Prod.mk.inj made
    exact ⟨a, found, same⟩
  · rintro ⟨a, found, rfl⟩
    exact ⟨(a, rest), found, rfl⟩

namespace Exact

variable {c : Codec α} {P : α → Prop} {d : Codec β} {Q : β → Prop}

theorem congr {P' : α → Prop} (exact : c.Exact P) (same : ∀ a, P a ↔ P' a) : c.Exact P' := by
  have equal : P = P' := funext fun a => propext (same a)
  exact equal ▸ exact

theorem complete_as (exact : c.Exact P) {make : α → β} {a : α} {b : β} (made : make a = b)
    (tail : Bytes) (domain : P a) (short : (c.write a).length < lengthBound) :
    c.readAs make (c.write a ++ tail) = .ok (b, tail) :=
  readAs_eq_ok.mpr ⟨a, exact.complete tail domain short, made⟩

theorem faithful_as (exact : c.Exact P) {make : α → β} {bytes rest : Bytes} {b : β}
    (done : c.readAs make bytes = .ok (b, rest)) :
    ∃ a, P a ∧ make a = b ∧ bytes = c.write a ++ rest := by
  obtain ⟨a, found, made⟩ := readAs_eq_ok.mp done
  obtain ⟨domain, split⟩ := exact.faithful found
  exact ⟨a, domain, made, split⟩

theorem via (exact : c.Exact P) {make : α → β} {parts : β → α} (taken : ∀ a, parts (make a) = a)
    (made : ∀ b, make (parts b) = b) : (c.via make parts).Exact fun b => P (parts b) where
  complete {b} tail domain short := exact.complete_as (made b) tail domain short
  faithful {bytes rest b} done := by
    obtain ⟨a, domain, rfl, split⟩ := exact.faithful_as done
    simp only [Codec.via, taken]
    exact ⟨domain, split⟩

theorem little {width : Nat} {make : Nat → α} {value : α → Nat}
    (fits : ∀ a, P a → value a < 256 ^ width) (made : ∀ a, P a → make (value a) = a)
    (valued : ∀ n, n < 256 ^ width → P (make n) ∧ value (make n) = n) :
    (little width make value).Exact P where
  complete {a} tail domain _ := by
    simp only [Codec.little, readLittle_littleBytes width (fits a domain), Except.map,
      made a domain]
  faithful {bytes rest a} done := by
    simp only [Codec.little] at done ⊢
    obtain ⟨⟨n, left⟩, outcome, read⟩ := map_eq_ok.mp done
    obtain ⟨rfl, rfl⟩ := Prod.mk.inj read
    obtain ⟨small, split⟩ := readLittle_eq_ok outcome
    obtain ⟨domain, same⟩ := valued n small
    rw [same]
    exact ⟨domain, split⟩

theorem u16 : Codec.u16.Exact fun _ => True :=
  little (fun n _ => n.toNat_lt) (fun _ _ => UInt16.ofNat_toNat) fun n small => by
    refine ⟨trivial, ?_⟩
    rw [UInt16.toNat_ofNat']
    exact Nat.mod_eq_of_lt small

theorem u32 : Codec.u32.Exact fun _ => True :=
  little (fun n _ => n.toNat_lt) (fun _ _ => UInt32.ofNat_toNat) fun n small => by
    refine ⟨trivial, ?_⟩
    rw [UInt32.toNat_ofNat']
    exact Nat.mod_eq_of_lt small

theorem u64 : Codec.u64.Exact fun _ => True :=
  little (fun n _ => n.toNat_lt) (fun _ _ => UInt64.ofNat_toNat) fun n small => by
    refine ⟨trivial, ?_⟩
    rw [UInt64.toNat_ofNat']
    exact Nat.mod_eq_of_lt small

theorem i32 : Codec.i32.Exact fun _ => True :=
  u32.via (fun _ => rfl) fun _ => rfl

theorem single : Codec.single.Exact fun _ => True :=
  little (fun x _ => x.bits.isLt) (fun x _ => congrArg Binary.mk (BitVec.ofNat_toNat _ x.bits))
    fun _ small => ⟨trivial, Nat.mod_eq_of_lt small⟩

theorem length : Codec.length.Exact (· < lengthBound) :=
  little (fun _ fits => fits) (fun _ _ => rfl) fun _ small => ⟨small, rfl⟩

theorem bigBits (width : Nat) : (Codec.bigBits width).Exact fun _ => True where
  complete {bits} tail _ _ := by
    have fits : bits.toNat < 256 ^ width := by
      have := bits.isLt
      rwa [Nat.pow_mul] at this
    have size : (littleBytes width bits.toNat).reverse.length = width := by simp
    have number := readLittle_littleBytes width fits []
    rw [List.append_nil] at number
    simp only [Codec.bigBits, List.length_append, size, List.take_left' size,
      List.drop_left' size, List.reverse_reverse, number, Except.map]
    rw [if_neg (by omega), BitVec.ofNat_toNat, BitVec.setWidth_eq]
  faithful {bytes rest bits} done := by
    simp only [Codec.bigBits] at done ⊢
    split at done
    · cases done
    next enough =>
      obtain ⟨⟨n, left⟩, outcome, read⟩ := map_eq_ok.mp done
      obtain ⟨rfl, rfl⟩ := Prod.mk.inj read
      obtain ⟨fits, split⟩ := readLittle_eq_ok outcome
      -- The bytes that are taken are as many as are read.
      have none : left = [] := by
        have lengths := congrArg List.length split
        simp only [List.length_reverse, List.length_take, List.length_append,
          littleBytes_length] at lengths
        exact List.length_eq_zero_iff.mp (by omega)
      have value : (BitVec.ofNat (8 * width) n).toNat = n := by
        rw [BitVec.toNat_ofNat, Nat.pow_mul]
        exact Nat.mod_eq_of_lt fits
      rw [none, List.append_nil] at split
      rw [value, ← split, List.reverse_reverse, List.take_append_drop]
      exact ⟨trivial, rfl⟩

theorem pair (first : c.Exact P) (second : d.Exact Q) :
    (c.pair d).Exact fun p => P p.1 ∧ Q p.2 where
  complete {p} tail domain short := by
    simp only [Codec.pair, List.length_append] at short
    have left := first.complete (d.write p.2 ++ tail) domain.1 (by omega)
    have right := second.complete_as (show (p.1, p.2) = p from rfl) tail domain.2 (by omega)
    simp only [Codec.pair, List.append_assoc, left, right]
  faithful {bytes rest p} done := by
    simp only [Codec.pair] at done ⊢
    split at done
    · cases done
    next x left found =>
      obtain ⟨inFirst, rfl⟩ := first.faithful found
      obtain ⟨y, inSecond, rfl, rfl⟩ := second.faithful_as done
      exact ⟨⟨inFirst, inSecond⟩, (List.append_assoc ..).symm⟩

theorem boolean : Codec.boolean.Exact fun _ => True where
  complete {b} tail _ _ := by cases b <;> rfl
  faithful {bytes rest b} done := by
    simp only [Codec.boolean] at done ⊢
    split at done
    · cases done
    · obtain ⟨rfl, rfl⟩ := Prod.mk.inj (Except.ok.inj done)
      exact ⟨trivial, rfl⟩
    · obtain ⟨rfl, rfl⟩ := Prod.mk.inj (Except.ok.inj done)
      exact ⟨trivial, rfl⟩
    · cases done

theorem option (exact : c.Exact P) : (option c).Exact fun o => ∀ a ∈ o, P a where
  complete {o} tail domain short := by
    cases o with
    | none => rfl
    | some a =>
      simp only [Codec.option, List.length_cons] at short
      exact exact.complete_as rfl tail (domain a rfl) (by omega)
  faithful {bytes rest o} done := by
    simp only [Codec.option] at done ⊢
    split at done
    · cases done
    · obtain ⟨rfl, rfl⟩ := Prod.mk.inj (Except.ok.inj done)
      exact ⟨by simp, rfl⟩
    · obtain ⟨a, domain, rfl, rfl⟩ := exact.faithful_as done
      exact ⟨by simpa using domain, rfl⟩
    · cases done

theorem readMany_complete (exact : c.Exact P) {xs : List α} (tail : Bytes)
    (domain : ∀ x ∈ xs, P x) (short : (xs.map c.write).flatten.length < lengthBound) :
    readMany c xs.length ((xs.map c.write).flatten ++ tail) = .ok (xs, tail) := by
  induction xs with
  | nil => rfl
  | cons x xs ih =>
    simp only [List.map_cons, List.flatten_cons, List.length_append] at short
    have head := exact.complete ((xs.map c.write).flatten ++ tail) (domain x (by simp)) (by omega)
    have others := ih (fun y member => domain y (List.mem_cons_of_mem x member)) (by omega)
    simp only [List.map_cons, List.flatten_cons, List.length_cons, List.append_assoc, readMany,
      head, others, Except.map]

theorem readMany_faithful (exact : c.Exact P) {n : Nat} {bytes rest : Bytes} {xs : List α}
    (done : readMany c n bytes = .ok (xs, rest)) :
    (∀ x ∈ xs, P x) ∧ xs.length = n ∧ bytes = (xs.map c.write).flatten ++ rest := by
  induction n generalizing bytes xs with
  | zero =>
    obtain ⟨rfl, rfl⟩ := Prod.mk.inj (Except.ok.inj done)
    simp
  | succ n ih =>
    unfold readMany at done
    split at done
    · cases done
    next x left found =>
      obtain ⟨⟨ys, last⟩, outcome, read⟩ := map_eq_ok.mp done
      obtain ⟨rfl, rfl⟩ := Prod.mk.inj read
      obtain ⟨head, rfl⟩ := exact.faithful found
      obtain ⟨tail, count, rfl⟩ := ih outcome
      refine ⟨?_, ?_, ?_⟩
      · simpa using ⟨head, tail⟩
      · simp [count]
      · simp

/-- Every element takes some bytes, so the length of a list that fits is a length in eight bytes. -/
theorem list (exact : c.Exact P) (filled : ∀ a, 0 < (c.write a).length) :
    (list c).Exact fun xs => ∀ x ∈ xs, P x where
  complete {xs} tail domain short := by
    -- Otherwise a long list of empty elements could outgrow its length in eight bytes.
    have bound : xs.length ≤ (xs.map c.write).flatten.length := by
      induction xs with
      | nil => simp
      | cons x xs ih =>
        have := filled x
        simp only [Codec.list, List.length_append, List.map_cons, List.flatten_cons,
          List.length_cons, Codec.length, Codec.little, littleBytes_length] at short ih ⊢
        have := ih (fun y member => domain y (List.mem_cons_of_mem x member)) (by omega)
        omega
    simp only [Codec.list, List.length_append] at short
    have counted := Exact.length.complete ((xs.map c.write).flatten ++ tail)
      (show xs.length < lengthBound by omega)
      (by simp [Codec.length, Codec.little, lengthBound])
    have elements := readMany_complete exact tail domain (by omega)
    simp only [Codec.list, List.append_assoc, counted, elements]
  faithful {bytes rest xs} done := by
    simp only [Codec.list] at done ⊢
    split at done
    · cases done
    next n left found =>
      obtain ⟨-, rfl⟩ := Exact.length.faithful found
      obtain ⟨domain, rfl, rfl⟩ := readMany_faithful exact done
      exact ⟨domain, (List.append_assoc ..).symm⟩

theorem text : Codec.text.Exact fun _ => True where
  complete {s} tail _ short := by
    simp only [Codec.text, List.length_append] at short ⊢
    have counted := Exact.length.complete (s.toUTF8.data.toList ++ tail)
      (show s.toUTF8.data.toList.length < lengthBound by omega)
      (by simp [Codec.length, Codec.little, lengthBound])
    have sound : String.fromUTF8? s.toUTF8 = some s := by
      simp [String.fromUTF8?, String.fromUTF8, s.isValidUTF8]
    simp only [List.append_assoc, counted, List.length_append, List.take_left, List.drop_left,
      Array.toArray_toList]
    rw [if_neg (by omega)]
    simp only [sound]
  faithful {bytes rest s} done := by
    simp only [Codec.text] at done ⊢
    split at done
    · cases done
    next n left found =>
      obtain ⟨-, rfl⟩ := Exact.length.faithful found
      split at done
      · cases done
      next enough =>
        split at done
        next sound =>
          obtain ⟨rfl, rfl⟩ := Prod.mk.inj (Except.ok.inj done)
          simp only [String.fromUTF8?] at sound
          split at sound
          next valid =>
            rw [← Option.some.inj sound]
            have size : (left.take n).length = n := by
              rw [List.length_take]
              omega
            simp [String.fromUTF8, size]
          · cases sound
        · cases done

/-- A codec whose values are alternatives with numbers: every alternative has its own bytes behind
its number, and every number that is read has an alternative. -/
theorem choice {choose : Nat → Bytes → Result α} (reads : c.read = readChoice choose)
    (complete : ∀ a, P a → ∃ n body, n < 256 ^ 4 ∧ c.write a = tag n ++ body ∧
      ∀ tail, body.length < lengthBound → choose n (body ++ tail) = .ok (a, tail))
    (faithful : ∀ n bytes rest a, choose n bytes = .ok (a, rest) →
      P a ∧ ∃ body, c.write a = tag n ++ body ∧ bytes = body ++ rest) : c.Exact P where
  complete {a} tail domain short := by
    obtain ⟨n, body, known, written, chosen⟩ := complete a domain
    rw [written, List.length_append] at short
    rw [written, reads, List.append_assoc]
    simp only [readChoice, tag, readLittle_littleBytes 4 known]
    exact chosen tail (by omega)
  faithful {bytes rest a} done := by
    rw [reads] at done
    unfold readChoice at done
    split at done
    · cases done
    next n left found =>
      obtain ⟨-, rfl⟩ := readLittle_eq_ok found
      obtain ⟨domain, body, written, rfl⟩ := faithful n left rest a done
      refine ⟨domain, ?_⟩
      rw [written, tag, List.append_assoc]

end Exact

end Codec

end ShardedWorld.Wire
