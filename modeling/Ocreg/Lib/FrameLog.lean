/-
Module: Ocreg.Lib.FrameLog
Purpose: Logs of frames laid end to end in a byte string: reading frames off the front until the bytes end or
  something stands there that is no frame, as a loop over a state and as the list of frames it goes through.
-/
import Ocreg.Lib.Codec

namespace FrameLog

open List

variable {α β ρ σ : Type}

/-- What stands at the front of some bytes: a frame of so many bytes, or the reason why there is none. -/
inductive Front (α ρ : Type) where
  | frame (content : α) (size : Nat)
  | stop (reason : ρ)

/-- No frame is empty. -/
def Positive (front : Bytes → Front α ρ) : Prop :=
  ∀ bytes content size, front bytes = .frame content size → 0 < size

/-- The loop of a reader: `take` accounts for a frame and its size, `halt` for the bytes left where there is none. -/
def scan (front : Bytes → Front α ρ) (take : σ → α → Nat → σ) (halt : σ → ρ → Nat → σ) : Nat → Bytes → σ → σ
  | 0, _, state => state
  | fuel + 1, bytes, state =>
    if bytes = [] then state
    else match front bytes with
      | .stop reason => halt state reason bytes.length
      | .frame content size => scan front take halt fuel (bytes.drop size) (take state content size)

/-- The frames a reader goes through, and why and how many bytes before the end it stops; none at the end. -/
def readFuel (front : Bytes → Front α ρ) : Nat → Bytes → List (α × Nat) × Option (ρ × Nat)
  | 0, _ => ([], none)
  | fuel + 1, bytes =>
    if bytes = [] then ([], none)
    else match front bytes with
      | .stop reason => ([], some (reason, bytes.length))
      | .frame content size =>
        ((content, size) :: (readFuel front fuel (bytes.drop size)).1, (readFuel front fuel (bytes.drop size)).2)

/-- A frame takes at least one byte, so the length bounds the rounds. -/
def read (front : Bytes → Front α ρ) (bytes : Bytes) : List (α × Nat) × Option (ρ × Nat) :=
  readFuel front bytes.length bytes

variable {front : Bytes → Front α ρ} {bytes : Bytes}

/-- The loop goes through the frames one by one and ends with what stopped it. -/
theorem scan_eq_foldl (take : σ → α → Nat → σ) (halt : σ → ρ → Nat → σ) (fuel : Nat) (bytes : Bytes) (state : σ) :
    scan front take halt fuel bytes state =
      let after := (readFuel front fuel bytes).1.foldl (fun state frame => take state frame.1 frame.2) state
      (readFuel front fuel bytes).2.elim after (fun stop => halt after stop.1 stop.2) := by
  induction fuel generalizing bytes state with
  | zero => rfl
  | succ fuel ih =>
    rw [scan, readFuel]
    split
    · rfl
    · cases front bytes with
      | stop reason => rfl
      | frame content size => exact ih (bytes.drop size) (take state content size)

/-- More rounds than the bytes are long change nothing. -/
theorem readFuel_eq_read (hpositive : Positive front) {fuel : Nat} (hfuel : bytes.length ≤ fuel) :
    readFuel front fuel bytes = read front bytes := by
  have hagree : ∀ (n m : Nat) (bytes : Bytes), bytes.length ≤ n → bytes.length ≤ m →
      readFuel front n bytes = readFuel front m bytes := by
    intro n
    induction n with
    | zero =>
      intro m bytes hn _
      have hnil : bytes = [] := eq_nil_of_length_eq_zero (Nat.le_zero.mp hn)
      cases m with
      | zero => rfl
      | succ m => rw [readFuel, readFuel, if_pos hnil]
    | succ n ih =>
      intro m bytes hn hm
      by_cases hnil : bytes = []
      · cases m with
        | zero => rw [readFuel, readFuel, if_pos hnil]
        | succ m => rw [readFuel, readFuel, if_pos hnil, if_pos hnil]
      · have hbytes := length_pos_of_ne_nil hnil
        obtain ⟨m, rfl⟩ := Nat.exists_eq_add_of_le' (Nat.le_trans hbytes hm)
        rw [readFuel, readFuel, if_neg hnil, if_neg hnil]
        cases hfront : front bytes with
        | stop reason => rfl
        | frame content size =>
          have hsize := hpositive bytes content size hfront
          have hless : (bytes.drop size).length < bytes.length := by
            rw [length_drop]
            omega
          dsimp only
          rw [ih m (bytes.drop size) (by omega) (by omega)]
  exact hagree fuel bytes.length bytes hfuel (le_refl _)

@[simp] theorem read_nil : read front [] = ([], none) := rfl

theorem read_stop {reason : ρ} (hne : bytes ≠ []) (hfront : front bytes = .stop reason) :
    read front bytes = ([], some (reason, bytes.length)) := by
  obtain ⟨n, hn⟩ := Nat.exists_eq_add_of_le' (length_pos_of_ne_nil hne)
  rw [read]
  nth_rewrite 1 [hn]
  rw [readFuel, if_neg hne, hfront]

section

variable (hpositive : Positive front)
include hpositive

theorem read_frame {content : α} {size : Nat} (hne : bytes ≠ []) (hfront : front bytes = .frame content size) :
    read front bytes = ((content, size) :: (read front (bytes.drop size)).1, (read front (bytes.drop size)).2) := by
  obtain ⟨n, hn⟩ := Nat.exists_eq_add_of_le' (length_pos_of_ne_nil hne)
  have hsize := hpositive bytes content size hfront
  have hless : (bytes.drop size).length ≤ n := by
    rw [length_drop]
    omega
  rw [read]
  nth_rewrite 1 [hn]
  rw [readFuel, if_neg hne, hfront]
  dsimp only
  rw [readFuel_eq_read hpositive hless]

/-- Induction on a log, frame by frame. -/
theorem read_rule {P : Bytes → Prop} (nil : P [])
    (stop : ∀ {bytes reason}, bytes ≠ [] → front bytes = .stop reason → P bytes)
    (frame : ∀ {bytes content size}, bytes ≠ [] → front bytes = .frame content size → P (bytes.drop size) → P bytes)
    (bytes : Bytes) : P bytes := by
  induction hlength : bytes.length using Nat.strong_induction_on generalizing bytes with
  | _ n ih =>
    subst hlength
    by_cases hne : bytes = []
    · exact hne ▸ nil
    · have hbytes := length_pos_of_ne_nil hne
      cases hfront : front bytes with
      | stop reason => exact stop hne hfront
      | frame content size =>
        have hsize := hpositive bytes content size hfront
        exact frame hne hfront (ih (bytes.drop size).length (by rw [length_drop]; omega) _ rfl)

/-- Where a reader stops: some bytes are left, and they are what the frames before them do not take. -/
theorem read_left {reason : ρ} {left : Nat} (hstop : (read front bytes).2 = some (reason, left)) :
    0 < left ∧ ((read front bytes).1.map Prod.snd).sum + left = bytes.length := by
  induction bytes using read_rule hpositive with
  | nil => cases hstop
  | stop hne hfront =>
    rw [read_stop hne hfront] at hstop ⊢
    cases hstop
    exact ⟨length_pos_of_ne_nil hne, Nat.zero_add _⟩
  | frame hne hfront ih =>
    rw [read_frame hpositive hne hfront] at hstop ⊢
    obtain ⟨hleft, hsum⟩ := ih hstop
    rw [length_drop] at hsum
    refine ⟨hleft, ?_⟩
    rw [map_cons, sum_cons]
    omega

theorem read_size_pos {frame : α × Nat} (hframe : frame ∈ (read front bytes).1) : 0 < frame.2 := by
  induction bytes using read_rule hpositive with
  | nil => cases hframe
  | stop hne hfront =>
    rw [read_stop hne hfront] at hframe
    cases hframe
  | @frame bytes content size hne hfront ih =>
    rw [read_frame hpositive hne hfront] at hframe
    rcases mem_cons.mp hframe with rfl | hrest
    · exact hpositive bytes content size hfront
    · exact ih hrest

/-- An encoding read back off the front of any bytes that start with it. -/
def Framed (front : Bytes → Front α ρ) (enc : β → Bytes) (content : β → α) (b : β) : Prop :=
  enc b ≠ [] ∧ ∀ rest, front (enc b ++ rest) = .frame (content b) (enc b).length

/-- Frames laid end to end are read one after the other, and then what follows them. -/
theorem read_flatMap {enc : β → Bytes} {content : β → α} {bs : List β} (hframed : ∀ b ∈ bs, Framed front enc content b)
    (tail : Bytes) : read front (bs.flatMap enc ++ tail) =
      (bs.map (fun b => (content b, (enc b).length)) ++ (read front tail).1, (read front tail).2) := by
  induction bs with
  | nil => rfl
  | cons b bs ih =>
    obtain ⟨hne, hfront⟩ := hframed b mem_cons_self
    have hrest := ih (fun b hb => hframed b (mem_cons_of_mem _ hb))
    rw [flatMap_cons, append_assoc,
      read_frame hpositive (append_ne_nil_of_left_ne_nil hne _) (hfront _), drop_left, hrest]
    rfl

end

/-! ### Reading a part of a log -/

/-- A frame is all there, and it is read again from its own bytes whatever follows them. -/
def Local (front : Bytes → Front α ρ) : Prop :=
  ∀ bytes content size, front bytes = .frame content size →
    size ≤ bytes.length ∧ ∀ rest, front (bytes.take size ++ rest) = .frame content size

/-- The first frame of a log that has one. -/
theorem read_cons (hpositive : Positive front) {first : α × Nat} {frames : List (α × Nat)}
    (hread : (read front bytes).1 = first :: frames) :
    bytes ≠ [] ∧ front bytes = .frame first.1 first.2 ∧ (read front (bytes.drop first.2)).1 = frames := by
  have hne : bytes ≠ [] := by
    intro hnil
    rw [hnil, read_nil] at hread
    cases hread
  cases hfront : front bytes with
  | stop reason =>
    rw [read_stop hne hfront] at hread
    cases hread
  | frame content size =>
    rw [read_frame hpositive hne hfront] at hread
    cases hread
    exact ⟨hne, rfl, rfl⟩

/-- A log that is cut off after some of its frames holds these frames and nothing else. -/
theorem read_take (hpositive : Positive front) (hlocal : Local front) {before after : List (α × Nat)}
    (hread : (read front bytes).1 = before ++ after) : (before.map Prod.snd).sum ≤ bytes.length ∧
      read front (bytes.take (before.map Prod.snd).sum) = (before, none) := by
  induction before generalizing bytes with
  | nil => exact ⟨Nat.zero_le _, rfl⟩
  | cons first before ih =>
    obtain ⟨hne, hfront, hrest⟩ := read_cons hpositive hread
    obtain ⟨hsize, hagain⟩ := hlocal bytes first.1 first.2 hfront
    obtain ⟨hcut, htake⟩ := ih hrest
    rw [length_drop] at hcut
    have hsplit : bytes.take (first.2 + (before.map Prod.snd).sum) =
        bytes.take first.2 ++ (bytes.drop first.2).take (before.map Prod.snd).sum := take_add
    have hlength : (bytes.take first.2).length = first.2 := length_take_of_le hsize
    have hsome : bytes.take first.2 ≠ [] := by
      apply ne_nil_of_length_pos
      rw [hlength]
      exact hpositive bytes first.1 first.2 hfront
    rw [map_cons, sum_cons, hsplit,
      read_frame hpositive (append_ne_nil_of_left_ne_nil hsome _) (hagain _), drop_left' hlength, htake]
    exact ⟨by omega, rfl⟩

/-- A log that is read to its end is made of its frames. -/
theorem read_whole (hpositive : Positive front) (hlocal : Local front) (hwhole : (read front bytes).2 = none) :
    ((read front bytes).1.map Prod.snd).sum = bytes.length := by
  induction bytes using read_rule hpositive with
  | nil => rfl
  | stop hne hfront =>
    rw [read_stop hne hfront] at hwhole
    cases hwhole
  | @frame bytes content size hne hfront ih =>
    obtain ⟨hsize, -⟩ := hlocal bytes content size hfront
    rw [read_frame hpositive hne hfront] at hwhole ⊢
    have hrest := ih hwhole
    rw [length_drop] at hrest
    rw [map_cons, sum_cons]
    omega

end FrameLog
