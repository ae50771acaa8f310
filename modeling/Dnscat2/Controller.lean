import Dnscat2.Handshake

/-!
The session controller: the sessions registered so far and a round-robin cursor over
them. `getNextActive` moves the cursor on round the circle to the next session that is
not shut down, and gives up after a full circle. From any state with a live session a
call returns the first live session after the cursor, and within as many calls as there
are sessions each live one comes up. `Destroy` empties the list but keeps the cursor: a
session registered after it can leave the cursor past the end, where the loop never meets
its start again, and once every session is shut down the call never returns.
-/

namespace Dnscat2

variable {D : Type}

/-- The controller's state: its sessions, in the order they were added, and the cursor. -/
structure Controller (D : Type) where
  sessions : List (Session D)
  currentIndex : Nat

namespace Controller

/-- The global controller before any call. -/
def new : Controller D := ⟨[], 0⟩

def addSession (c : Controller D) (s : Session D) : Controller D :=
  { c with sessions := c.sessions ++ [s] }

/-- The session at `i` shuts down (`Kill`, from whichever path calls it). -/
def kill (ops : Driver D) (c : Controller D) (i : Nat) : Controller D :=
  { c with sessions := c.sessions.modify (Session.kill ops) i }

/-- `Destroy`: the sessions are dropped; `currentIndex` is left as it is. -/
def destroy (c : Controller D) : Controller D := { c with sessions := [] }

/-- The loop of `getNextActive`, with `fuel` turns: the session it returns (`none` for the
`break`) and the cursor it leaves; `none` outside when the fuel runs out first. -/
def loop (sessions : List (Session D)) (startIndex : Nat) : Nat → Nat →
    Option (Option (Session D) × Nat)
  | 0, _ => none
  | fuel + 1, currentIndex =>
    let currentIndex := (currentIndex + 1) % sessions.length
    match sessions[currentIndex]? with
    | none => some (none, currentIndex)
    | some s =>
      if !s.isShutdown then some (some s, currentIndex)
      else if currentIndex = startIndex then some (none, currentIndex)
      else loop sessions startIndex fuel currentIndex

def getNextActive (c : Controller D) (fuel : Nat) : Option (Option (Session D) × Controller D) :=
  if c.sessions.length = 0 then some (none, c)
  else (loop c.sessions c.currentIndex fuel c.currentIndex).map fun r =>
    (r.1, { c with currentIndex := r.2 })

/-- The calls a run of the controller is made of. -/
inductive Op (D : Type)
  | addSession (s : Session D)
  | kill (i : Nat)
  | destroy
  | getNextActive

def apply (ops : Driver D) (fuel : Nat) (c : Controller D) : Op D → Option (Controller D)
  | .addSession s => some (c.addSession s)
  | .kill i => some (c.kill ops i)
  | .destroy => some c.destroy
  | .getNextActive => (c.getNextActive fuel).map Prod.snd

def run (ops : Driver D) (fuel : Nat) (c : Controller D) : List (Op D) → Option (Controller D)
  | [] => some c
  | o :: os => (c.apply ops fuel o).bind fun c => run ops fuel c os

/-- The cursor below the number of sessions, or at zero. -/
def Inv (c : Controller D) : Prop := c.currentIndex < c.sessions.length ∨ c.currentIndex = 0

/-! ### One call -/

/-- Whether the session at `i` is registered and not shut down. -/
def liveAt (sessions : List (Session D)) (i : Nat) : Bool := sessions[i]?.any fun s => !s.isShutdown

/-- The first offset `k` in `1, …, n` whose session, `k` places after `x`, is live. -/
def firstLive (sessions : List (Session D)) (x : Nat) : Option Nat :=
  (List.range' 1 sessions.length).find? fun k => liveAt sessions ((x + k) % sessions.length)

/-- The session and cursor a call ends with, for the offset it finds. -/
def outcome (sessions : List (Session D)) (x : Nat) : Option Nat → Option (Session D) × Nat
  | some k => (sessions[(x + k) % sessions.length]?, (x + k) % sessions.length)
  | none => (none, x)

private theorem add_mod_of_le {x k n : Nat} (hx : x < n) (hk : k ≤ n) :
    (x + k) % n = if x + k < n then x + k else x + k - n := by
  split_ifs with h
  · exact Nat.mod_eq_of_lt h
  · rw [Nat.mod_eq_sub_mod (by omega), Nat.mod_eq_of_lt (by omega)]

/-- Within one circle, the cursor is back at its start only after the whole circle. -/
private theorem add_mod_eq_self {x n : Nat} (hx : x < n) (j : Nat) (hj : 0 < j) (hjn : j ≤ n) :
    (x + j) % n = x ↔ j = n := by
  rw [add_mod_of_le hx hjn]; split_ifs <;> omega

private theorem find?_range'_min {p : Nat → Bool} {a m k : Nat}
    (h : (List.range' a m).find? p = some k) {j : Nat} (hj : a ≤ j) (hjk : j < k) :
    p j = false := by
  induction m generalizing a with
  | zero => simp at h
  | succ m ih =>
    rw [List.range'_succ, List.find?_cons] at h
    cases hp : p a
    · rw [hp] at h
      rcases Nat.lt_or_ge j (a + 1) with hlt | hge
      · rwa [show j = a by omega]
      · exact ih h hge
    · rw [hp] at h; cases h; omega

/-- The loop from `t` turns into the circle round `x`, with `m` turns to go and fuel for
them, ends as the search of the offsets after `t` says, when it started from `x` or from
past the end with a live session still ahead. -/
theorem loop_eq {S : List (Session D)} {x st : Nat} (hx : x < S.length) :
    ∀ m t fuel, t + m = S.length → 0 < m → m ≤ fuel →
      (st = x ∨ S.length ≤ st ∧
        ((List.range' (t + 1) m).find? fun k => liveAt S ((x + k) % S.length)).isSome) →
      loop S st fuel ((x + t) % S.length) =
        some (outcome S x ((List.range' (t + 1) m).find? fun k => liveAt S ((x + k) % S.length)))
  | 0, _, _, _, hm, _, _ => absurd hm (Nat.lt_irrefl 0)
  | m + 1, t, fuel + 1, htm, _, hf, hst => by
    have hidx : ((x + t) % S.length + 1) % S.length = (x + (t + 1)) % S.length := by
      rw [Nat.mod_add_mod, Nat.add_assoc]
    have hlt : (x + (t + 1)) % S.length < S.length := Nat.mod_lt _ (by omega)
    obtain ⟨s, hs⟩ : ∃ s, S[(x + (t + 1)) % S.length]? = some s :=
      ⟨_, List.getElem?_eq_getElem hlt⟩
    simp only [loop, hidx, hs, List.range'_succ, List.find?_cons, liveAt, Option.any_some] at hst ⊢
    cases hsh : s.isShutdown
    · simp [outcome, hs]
    · simp only [hsh, Bool.not_true] at hst
      rcases Nat.eq_zero_or_pos m with rfl | hm
      · rcases hst with rfl | ⟨-, hsome⟩
        · simp [outcome, (add_mod_eq_self hx (t + 1) (by omega) (by omega)).mpr (by omega)]
        · simp at hsome
      · -- the cursor meets the start only at the end of a circle from `x`
        have hne : (x + (t + 1)) % S.length ≠ st := by
          rcases hst with rfl | ⟨hle, -⟩
          · rw [ne_eq, add_mod_eq_self hx (t + 1) (by omega) (by omega)]; omega
          · omega
        rw [if_neg (by simp), if_neg hne, loop_eq hx m (t + 1) fuel (by omega) hm (by omega) hst]
        rfl
  | _ + 1, _, 0, _, _, hf, _ => absurd hf (by omega)

/-- One call from a cursor below the length, with fuel for a circle: the first live
session after the cursor, or `nil` with the cursor where it was. -/
theorem getNextActive_eq {c : Controller D} {fuel : Nat} (hx : c.currentIndex < c.sessions.length)
    (hf : c.sessions.length ≤ fuel) :
    c.getNextActive fuel = some ((outcome c.sessions c.currentIndex
      (firstLive c.sessions c.currentIndex)).1, { c with currentIndex :=
        (outcome c.sessions c.currentIndex (firstLive c.sessions c.currentIndex)).2 }) := by
  have h := loop_eq hx c.sessions.length 0 fuel (by omega) (by omega) hf (.inl rfl)
  rw [Nat.add_zero, Nat.mod_eq_of_lt hx] at h
  rw [getNextActive, if_neg (by omega), h]
  rfl

/-! ### Round the circle -/

/-- How many places after `x` the index `i` comes, round a circle of `n`: from 1 to `n`. -/
def dist (n x i : Nat) : Nat := if x < i then i - x else i + n - x

private theorem dist_pos {n x i : Nat} (hx : x < n) (hi : i < n) :
    0 < dist n x i ∧ dist n x i ≤ n := by
  unfold dist; split_ifs <;> omega

private theorem add_dist {n x i : Nat} (hx : x < n) (hi : i < n) : (x + dist n x i) % n = i := by
  rw [add_mod_of_le hx (dist_pos hx hi).2]; unfold dist; split_ifs <;> omega

private theorem dist_add {n x i k : Nat} (hx : x < n) (hi : i < n) (hk : 0 < k)
    (hkd : k < dist n x i) : dist n ((x + k) % n) i = dist n x i - k := by
  unfold dist at hkd ⊢
  by_cases hxi : x < i
  · rw [if_pos hxi] at hkd
    rw [Nat.mod_eq_of_lt (by omega), if_pos (by omega), if_pos hxi]; omega
  · rw [if_neg hxi] at hkd
    by_cases hxk : x + k < n
    · rw [Nat.mod_eq_of_lt hxk, if_neg (by omega), if_neg hxi]; omega
    · rw [Nat.mod_eq_sub_mod (by omega), Nat.mod_eq_of_lt (by omega), if_pos (by omega),
        if_neg hxi]
      omega

theorem liveAt_iff {S : List (Session D)} {i : Nat} :
    liveAt S i = true ↔ ∃ s, S[i]? = some s ∧ s.isShutdown = false := by
  unfold liveAt; cases S[i]? <;> simp

/-- Every live index is found within one circle, at its distance or before. -/
theorem firstLive_le {S : List (Session D)} {x i : Nat} (hx : x < S.length) (hi : liveAt S i = true)
    (hin : i < S.length) : ∃ k, firstLive S x = some k ∧ 0 < k ∧ k ≤ dist S.length x i := by
  have hd := dist_pos hx hin
  cases hk : firstLive S x with
  | none =>
    have := List.find?_eq_none.mp hk (dist S.length x i) (List.mem_range'_1.mpr ⟨hd.1, by omega⟩)
    rw [add_dist hx hin, hi] at this
    exact absurd rfl this
  | some k =>
    have hmem := List.mem_range'_1.mp (List.mem_of_find?_eq_some hk)
    refine ⟨k, rfl, hmem.1, Nat.le_of_not_lt fun hlt => ?_⟩
    have := find?_range'_min hk (Nat.succ_le_of_lt hd.1) hlt
    rw [add_dist hx hin, hi] at this
    exact absurd this (by decide)

/-- What one call returns, from a cursor below the length: a registered session that is
not shut down, and `nil` only when every session is shut down. -/
theorem outcome_firstLive {S : List (Session D)} {x : Nat} (hx : x < S.length) :
    ((outcome S x (firstLive S x)).1 = none ↔ ∀ s ∈ S, s.isShutdown = true) ∧
      (∀ s, (outcome S x (firstLive S x)).1 = some s →
        s.isShutdown = false ∧ S[(outcome S x (firstLive S x)).2]? = some s) ∧
      (outcome S x (firstLive S x)).2 < S.length := by
  have hmod : ∀ k, (x + k) % S.length < S.length := fun k => Nat.mod_lt _ (by omega)
  cases hk : firstLive S x with
  | none =>
    refine ⟨⟨fun _ s hs => ?_, fun _ => rfl⟩, fun s h => by simp [outcome] at h, hx⟩
    obtain ⟨i, hi⟩ := List.mem_iff_getElem?.mp hs
    cases hsh : s.isShutdown
    · obtain ⟨k, hk', -⟩ :=
        firstLive_le hx (liveAt_iff.mpr ⟨s, hi, hsh⟩) (List.getElem?_eq_some_iff.mp hi).1
      simp [hk] at hk'
    · rfl
  | some k =>
    have hp := List.find?_some
      (show (List.range' 1 S.length).find? (fun k => liveAt S ((x + k) % S.length)) = some k
        from hk)
    obtain ⟨s, hs, hsh⟩ := liveAt_iff.mp hp
    refine ⟨⟨fun h => by simp [outcome, hs] at h, fun h => ?_⟩, fun s' h => ?_, hmod k⟩
    · simp [h s (List.mem_iff_getElem?.mpr ⟨_, hs⟩)] at hsh
    · simp only [outcome, hs, Option.some.injEq] at h ⊢; subst h; exact ⟨hsh, rfl⟩

/-- Calls in a row, from a cursor below the length: each live session comes up within
as many calls as it is places ahead of the cursor. -/
theorem getNextActive_fair (ops : Driver D) {fuel : Nat} {i : Nat} {s : Session D} :
    ∀ d (c : Controller D), c.currentIndex < c.sessions.length → c.sessions.length ≤ fuel →
      c.sessions[i]? = some s → s.isShutdown = false →
      dist c.sessions.length c.currentIndex i = d →
      ∃ t < d, ∃ c₁, run ops fuel c (List.replicate t .getNextActive) = some c₁ ∧
        c₁.getNextActive fuel = some (some s, { c₁ with currentIndex := i }) := by
  intro d
  induction d using Nat.strongRecOn with
  | ind d ih =>
    intro c hx hf hi hs hd
    have hin : i < c.sessions.length := (List.getElem?_eq_some_iff.mp hi).1
    have hdp := dist_pos hx hin
    obtain ⟨k, hk, hk0, hkd⟩ := firstLive_le hx (liveAt_iff.mpr ⟨s, hi, hs⟩) hin
    have hcall := getNextActive_eq hx hf
    rw [hk] at hcall
    rcases Nat.lt_or_ge k d with hlt | hge
    · -- the call stops at a live session before `i`, which is then nearer
      have hnear := dist_add hx hin hk0 (show k < dist c.sessions.length c.currentIndex i by omega)
      obtain ⟨t, ht, c₁, hr, hc₁⟩ := ih (d - k) (by omega)
        { c with currentIndex := (c.currentIndex + k) % c.sessions.length }
        (Nat.mod_lt _ (by omega)) hf hi hs (by rw [← hd]; exact hnear)
      refine ⟨t + 1, by omega, c₁, ?_, hc₁⟩
      simp only [List.replicate_succ, run, apply, hcall, Option.map_some', Option.some_bind]
      exact hr
    · -- the call stops at `i`
      have hki : (c.currentIndex + k) % c.sessions.length = i := by
        rw [show k = dist c.sessions.length c.currentIndex i by omega, add_dist hx hin]
      refine ⟨0, by omega, c, rfl, ?_⟩
      rw [hcall]; simp [outcome, hki, hi]

/-! ### From any state -/

theorem Inv.lt {c : Controller D} (h : c.Inv) (hn : 0 < c.sessions.length) :
    c.currentIndex < c.sessions.length := by
  unfold Inv at h; omega

theorem loop_mod (S : List (Session D)) (st : Nat) :
    ∀ fuel i, loop S st fuel (i % S.length) = loop S st fuel i
  | 0, _ => rfl
  | _ + 1, _ => by simp only [loop, Nat.mod_add_mod]

/-- A call that can return does what it does from the cursor taken modulo the length. -/
theorem getNextActive_mod {c : Controller D} {fuel : Nat} (hf : c.sessions.length ≤ fuel)
    (hn : 0 < c.sessions.length)
    (hc : c.currentIndex < c.sessions.length ∨ ∃ s ∈ c.sessions, s.isShutdown = false) :
    c.getNextActive fuel =
      { c with currentIndex := c.currentIndex % c.sessions.length }.getNextActive fuel := by
  rcases Nat.lt_or_ge c.currentIndex c.sessions.length with hx | hx
  · rw [Nat.mod_eq_of_lt hx]
  obtain ⟨s, hs, hsh⟩ := hc.resolve_left (by omega)
  have hx' := Nat.mod_lt c.currentIndex hn
  -- a live session is ahead, so the cursor past the end never has to meet its start
  have hsome : (firstLive c.sessions (c.currentIndex % c.sessions.length)).isSome := by
    obtain ⟨i, hi⟩ := List.mem_iff_getElem?.mp hs
    obtain ⟨k, hk, -⟩ := firstLive_le hx' (liveAt_iff.mpr ⟨s, hi, hsh⟩)
      (List.getElem?_eq_some_iff.mp hi).1
    rw [hk]; rfl
  have h₁ := loop_eq hx' c.sessions.length 0 fuel (by omega) hn hf (.inr ⟨hx, hsome⟩)
  have h₂ := loop_eq hx' c.sessions.length 0 fuel (by omega) hn hf (.inl rfl)
  rw [Nat.add_zero, Nat.mod_mod] at h₁ h₂
  rw [loop_mod] at h₁
  simp only [getNextActive, if_neg (Nat.pos_iff_ne_zero.mp hn), h₁, h₂]

/-- With every session shut down and the start at or past the end of the list, the
cursor, always below the length, never meets the start again. -/
theorem loop_spins {S : List (Session D)} {x : Nat} (hn : 0 < S.length) (hx : S.length ≤ x)
    (hS : ∀ s ∈ S, s.isShutdown = true) : ∀ fuel i, loop S x fuel i = none
  | 0, _ => rfl
  | fuel + 1, i => by
    have hlt : (i + 1) % S.length < S.length := Nat.mod_lt _ hn
    have hs : S[(i + 1) % S.length]? = some S[(i + 1) % S.length] := List.getElem?_eq_getElem hlt
    have hsh := hS _ (List.getElem_mem hlt)
    simp only [loop, hs, hsh, Bool.not_true]
    rw [if_neg (by simp), if_neg (by omega)]
    exact loop_spins hn hx hS fuel _

theorem getNextActive_spins {c : Controller D} (hn : 0 < c.sessions.length)
    (hx : c.sessions.length ≤ c.currentIndex) (hS : ∀ s ∈ c.sessions, s.isShutdown = true)
    (fuel : Nat) : c.getNextActive fuel = none := by
  rw [getNextActive, if_neg (by omega), loop_spins hn hx hS]
  rfl

/-- From any state, with fuel for a circle: a call fails to return exactly when every
session is shut down and the cursor is at or past the end of a list that is not empty;
when it returns it keeps the sessions and gives a registered live session, or `nil` only
when every session is shut down; and calls in a row bring up each live session within as
many calls as there are sessions. -/
theorem getNextActive_from_any (ops : Driver D) (c : Controller D) {fuel : Nat}
    (hf : c.sessions.length ≤ fuel) :
    (c.getNextActive fuel = none ↔ 0 < c.sessions.length ∧
      c.sessions.length ≤ c.currentIndex ∧ ∀ s ∈ c.sessions, s.isShutdown = true) ∧
    (∀ r c', c.getNextActive fuel = some (r, c') → c'.sessions = c.sessions ∧
      (r = none ↔ ∀ s ∈ c.sessions, s.isShutdown = true) ∧
      ∀ s, r = some s → s ∈ c.sessions ∧ s.isShutdown = false) ∧
    ∀ i s, c.sessions[i]? = some s → s.isShutdown = false →
      ∃ t < c.sessions.length, ∃ c₁,
        run ops fuel c (List.replicate t .getNextActive) = some c₁ ∧
        c₁.getNextActive fuel = some (some s, { c₁ with currentIndex := i }) := by
  rcases Nat.eq_zero_or_pos c.sessions.length with h0 | hn
  · -- no sessions: `nil` at once
    have hnil := List.length_eq_zero.mp h0
    refine ⟨⟨fun h => by simp [getNextActive, h0] at h, fun h => by omega⟩,
      fun r c' h => ?_, fun i s hi => by simp [hnil] at hi⟩
    simp only [getNextActive, h0, if_true, Option.some.injEq, Prod.mk.injEq] at h
    obtain ⟨rfl, rfl⟩ := h
    simp [hnil]
  let cm : Controller D := { c with currentIndex := c.currentIndex % c.sessions.length }
  have hx : cm.currentIndex < cm.sessions.length := Nat.mod_lt _ hn
  have hcall := getNextActive_eq hx hf
  obtain ⟨hnone, hsome, -⟩ := outcome_firstLive hx
  -- unless the cursor is stranded past the end with every session shut down, a call does
  -- what it does from the cursor taken modulo the length
  have hmod : ¬(c.sessions.length ≤ c.currentIndex ∧ ∀ s ∈ c.sessions, s.isShutdown = true) →
      c.getNextActive fuel = cm.getNextActive fuel := fun h => by
    refine getNextActive_mod hf hn (not_and_or.mp h |>.imp Nat.lt_of_not_le fun hall => ?_)
    push_neg at hall
    simpa using hall
  refine ⟨⟨fun h => ⟨hn, by_contra fun hne => by rw [hmod hne, hcall] at h; cases h⟩,
    fun ⟨_, hle, hall⟩ => getNextActive_spins hn hle hall fuel⟩, fun r c' h => ?_,
    fun i s hi hs => ?_⟩
  · have hret : ¬(c.sessions.length ≤ c.currentIndex ∧ ∀ s ∈ c.sessions, s.isShutdown = true) :=
      fun ⟨hle, hall⟩ => by rw [getNextActive_spins hn hle hall fuel] at h; cases h
    rw [hmod hret, hcall, Option.some.injEq, Prod.mk.injEq] at h
    obtain ⟨rfl, rfl⟩ := h
    refine ⟨rfl, hnone, fun s h => ?_⟩
    obtain ⟨hs, hi⟩ := hsome s h
    exact ⟨List.mem_iff_getElem?.mpr ⟨_, hi⟩, hs⟩
  · have hin : i < c.sessions.length := (List.getElem?_eq_some_iff.mp hi).1
    have heq := getNextActive_mod hf hn (.inr ⟨s, List.mem_iff_getElem?.mpr ⟨i, hi⟩, hs⟩)
    obtain ⟨t, ht, c₁, h₁, h₂⟩ := getNextActive_fair ops _ cm hx hf hi hs rfl
    refine ⟨t, lt_of_lt_of_le ht (dist_pos hx hin).2, ?_⟩
    rcases t with _ | t
    · cases h₁
      exact ⟨c, rfl, heq.trans h₂⟩
    · refine ⟨c₁, ?_, h₂⟩
      simpa only [List.replicate_succ, run, apply, heq] using h₁

/-- One live session registered after `Destroy`, the cursor left at 1, past the end. -/
def stranded : Controller ConsoleDriver := ⟨[Renegotiation.start], 1⟩

theorem getNextActive_from_any_stranded :
    stranded.sessions.length ≤ 1 ∧
    (stranded.getNextActive 1 = none ↔ 0 < stranded.sessions.length ∧
      stranded.sessions.length ≤ stranded.currentIndex ∧
      ∀ s ∈ stranded.sessions, s.isShutdown = true) ∧
    (∀ r c', stranded.getNextActive 1 = some (r, c') → c'.sessions = stranded.sessions ∧
      (r = none ↔ ∀ s ∈ stranded.sessions, s.isShutdown = true) ∧
      ∀ s, r = some s → s ∈ stranded.sessions ∧ s.isShutdown = false) ∧
    ∀ i s, stranded.sessions[i]? = some s → s.isShutdown = false →
      ∃ t < stranded.sessions.length, ∃ c₁,
        run consoleDriver 1 stranded (List.replicate t .getNextActive) = some c₁ ∧
        c₁.getNextActive 1 = some (some s, { c₁ with currentIndex := i }) :=
  ⟨by decide, getNextActive_from_any consoleDriver stranded (by decide)⟩

/-! ### After `Destroy` -/

theorem run_append (ops : Driver D) (fuel : Nat) (os os' : List (Op D)) :
    ∀ c, run ops fuel c (os ++ os') = (run ops fuel c os).bind fun c => run ops fuel c os' := by
  induction os with
  | nil => intro c; rfl
  | cons o os ih =>
    intro c
    simp only [List.cons_append, run]
    cases c.apply ops fuel o with
    | none => rfl
    | some c' => exact ih c'

end Controller

end Dnscat2
