/-
# The rate limiter

`rate_limit.rs`: the streams of a tunnel share one limiter.  Before a stream writes a block it
reserves the time that the block takes at the rate of the tunnel, and sleeps until the end of its
reservation less the burst.

A limiter is a server that works off the reservations one after the other.  The bound on what it
lets through comes from there; here are the numbers of the code, in nanoseconds since the origin of
the clock, and what the rounding of the costs does.
-/
import GateRust.Lib.VirtualSchedule
import Mathlib.Algebra.Order.Floor.Div
import Mathlib.Algebra.BigOperators.Ring.Finset
import Mathlib.Data.Nat.Cast.Order.Field
import Mathlib.Data.Rat.Floor
import Mathlib.Tactic.NormNum

namespace GateRust.Tunnel.RateLimit

/-- A `NonZeroU64`. -/
abbrev NonZeroU64 := {n : UInt64 // n ≠ 0}

/-- The limiter without the content of its mutex, which is passed along as `next`: the end of the
reservations so far. -/
structure Limited where
  bytesPerSecond : NonZeroU64
  burst : ℕ

/-- Without a limit nothing is reserved. -/
structure RateLimiter where
  inner : Option Limited
  next : ℕ

/-- `u64::MAX`, where the conversions of `reserve` end. -/
def maxU64 : ℕ := 2 ^ 64 - 1

/-- `Limited` as `RateLimiter::new` makes it, with a burst of 100 ms. -/
def Limited.new (rate : NonZeroU64) : Limited := ⟨rate, 100000000⟩

def RateLimiter.new (bytesPerSecond : Option NonZeroU64) (now : ℕ) : RateLimiter :=
  ⟨bytesPerSecond.map .new, now⟩

/-- A call of `acquire`: the number of bytes, and the time at which it reads the clock. -/
structure Reservation where
  bytes : ℕ
  now : ℕ

namespace Limited

variable (l : Limited)

def rate : ℕ := l.bytesPerSecond.1.toNat

/-- The time that the bytes take. -/
def cost (bytes : ℕ) : ℕ := min ((min bytes maxU64 * 1000000000) ⌈/⌉ l.rate) maxU64

/-- The delay of a call, and the end of its reservation. -/
def reserve (next : ℕ) (call : Reservation) : ℕ × ℕ :=
  let next := max next call.now + l.cost call.bytes
  -- `checked_sub` fails only for a time before the burst has passed since the origin
  let start := if l.burst ≤ next then next - l.burst else call.now
  (start - call.now, next)

end Limited

/-- The delay of a call, and the limiter after it. -/
def RateLimiter.acquire (limiter : RateLimiter) (call : Reservation) : ℕ × RateLimiter :=
  match limiter.inner with
  | none => (0, limiter)
  | some l =>
    let (delay, next) := l.reserve limiter.next call
    (delay, { limiter with next })

/-! ## Histories of reservations -/

namespace Limited

variable (l : Limited) (next : ℕ) (calls : ℕ → Reservation)

/-- The content of the mutex after the first `k` calls. -/
def nextAfter : ℕ → ℕ
  | 0 => next
  | k + 1 => (l.reserve (nextAfter k) (calls k)).2

/-- When the call `k` goes on: `r_k`. -/
def released (k : ℕ) : ℕ := (calls k).now + (l.reserve (l.nextAfter next calls k) (calls k)).1

/-- The reservations as requests of a server. -/
def requests (k : ℕ) : VirtualSchedule.Request ℤ := ⟨(calls k).now, l.cost (calls k).bytes⟩

variable {l next calls} {i j n : ℕ}

lemma nextAfter_succ (k : ℕ) : l.nextAfter next calls (k + 1) =
    max (l.nextAfter next calls k) (calls k).now + l.cost (calls k).bytes := rfl

lemma nextAfter_eq (k : ℕ) : (l.nextAfter next calls k : ℤ) =
    VirtualSchedule.finish (next : ℤ) (l.requests calls) k := by
  induction k with
  | zero => rfl
  | succ k ih =>
    rw [nextAfter_succ, VirtualSchedule.finish, ← ih, Nat.cast_add, Nat.cast_max]
    rfl

/-- Once the burst has passed since the origin of the clock, the limiter releases a call as the
server does. -/
lemma released_eq {k : ℕ} (hburst : l.burst ≤ (calls k).now) :
    (l.released next calls k : ℤ) =
      VirtualSchedule.release (l.burst : ℤ) next (l.requests calls) k := by
  have hnext : (l.nextAfter next calls (k + 1) : ℤ) =
      VirtualSchedule.finish (next : ℤ) (l.requests calls) (k + 1) := nextAfter_eq (k + 1)
  have hle : (calls k).now ≤
      max (l.nextAfter next calls k) (calls k).now + l.cost (calls k).bytes :=
    (le_max_right _ _).trans (Nat.le_add_right _ _)
  have hdelay : l.released next calls k =
      (calls k).now + (l.nextAfter next calls (k + 1) - l.burst - (calls k).now) := by
    rw [released, reserve, nextAfter_succ]
    dsimp only
    rw [if_pos (hburst.trans hle)]
  rw [hdelay, VirtualSchedule.release, ← hnext, requests]
  dsimp only
  omega

/-! ## The rounding of the costs -/

lemma rate_pos : 0 < l.rate := by
  have hne : l.bytesPerSecond.1 ≠ 0 := l.bytesPerSecond.2
  have hrate : l.bytesPerSecond.1.toNat ≠ 0 := fun h => hne (UInt64.toNat_inj.mp h)
  exact Nat.pos_of_ne_zero hrate

/-- A block is too small for the conversions to end at the largest number. -/
lemma cost_eq_ceilDiv {bytes : ℕ} (hbytes : bytes ≤ 65535) :
    l.cost bytes = (bytes * 1000000000) ⌈/⌉ l.rate := by
  have hle : (bytes * 1000000000) ⌈/⌉ l.rate ≤ bytes * 1000000000 := by
    rw [ceilDiv_le_iff_le_smul rate_pos, smul_eq_mul]
    exact Nat.le_mul_of_pos_left _ rate_pos
  have hmax : bytes ≤ maxU64 := hbytes.trans (by norm_num [maxU64])
  have hnanos : bytes * 1000000000 ≤ maxU64 :=
    (Nat.mul_le_mul_right _ hbytes).trans (by norm_num [maxU64])
  rw [cost, min_eq_left hmax, min_eq_left (hle.trans hnanos)]

/-- The cost is the time in nanoseconds, rounded up. -/
lemma cost_eq_ceil {bytes : ℕ} (hbytes : bytes ≤ 65535) :
    l.cost bytes = ⌈(bytes * 10 ^ 9 : ℚ) / l.rate⌉₊ := by
  have hrate : (0 : ℚ) < l.rate := by exact_mod_cast rate_pos
  rw [cost_eq_ceilDiv hbytes]
  refine eq_of_forall_ge_iff fun c => ?_
  rw [ceilDiv_le_iff_le_smul rate_pos, Nat.ceil_le, div_le_iff₀ hrate, smul_eq_mul,
    Nat.mul_comm l.rate]
  norm_cast

/-- The bytes are at most what the rate allows in the time that they cost. -/
lemma bytes_le {bytes : ℕ} (hbytes : bytes ≤ 65535) :
    bytes * 10 ^ 9 ≤ l.rate * l.cost bytes := by
  have hle : (bytes * 1000000000) ⌈/⌉ l.rate ≤ l.cost bytes := (cost_eq_ceilDiv hbytes).ge
  rwa [ceilDiv_le_iff_le_smul rate_pos, smul_eq_mul] at hle

lemma cost_pos {bytes : ℕ} (hbytes : bytes ≤ 65535) (hpos : 0 < bytes) : 0 < l.cost bytes := by
  have hle : bytes * 10 ^ 9 ≤ l.rate * l.cost bytes := bytes_le hbytes
  refine Nat.pos_of_ne_zero fun hzero => ?_
  rw [hzero] at hle
  omega

/-- Bytes whose cost fits into a time fit into it at the rate. -/
lemma sum_bytes_le {window : Finset ℕ} {time : ℕ}
    (hbytes : ∀ k ∈ window, (calls k).bytes ≤ 65535)
    (hcost : ∑ k ∈ window, l.cost (calls k).bytes ≤ time) :
    (∑ k ∈ window, (calls k).bytes) * 10 ^ 9 ≤ l.rate * time := by
  rw [Finset.sum_mul]
  calc ∑ k ∈ window, (calls k).bytes * 10 ^ 9
      ≤ ∑ k ∈ window, l.rate * l.cost (calls k).bytes :=
        Finset.sum_le_sum fun k hk => bytes_le (hbytes k hk)
    _ = l.rate * ∑ k ∈ window, l.cost (calls k).bytes := (Finset.mul_sum ..).symm
    _ ≤ l.rate * time := Nat.mul_le_mul_left _ hcost

/-! ## The bound -/

/-- The first `n` calls read a clock that does not go back, at least the burst after its origin,
and reserve blocks of a stream or datagrams. -/
structure Regular (l : Limited) (calls : ℕ → Reservation) (n : ℕ) : Prop where
  clock : ∀ k, k + 1 < n → (calls k).now ≤ (calls (k + 1)).now
  start : ∀ k < n, l.burst ≤ (calls k).now
  bytes : ∀ k < n, (calls k).bytes ≤ 65535

section Regular

variable (h : l.Regular calls n)
include h

lemma Regular.released_le (hij : i ≤ j) (hj : j < n) :
    l.released next calls i ≤ l.released next calls j := by
  have hle := VirtualSchedule.release_le_release (l.burst : ℤ) (next : ℤ)
    (l.requests calls) hij hj (fun k hk => Int.ofNat_le.mpr (h.clock k hk))
    (fun k _ => Int.natCast_nonneg _)
  rw [← released_eq (h.start i (by omega)), ← released_eq (h.start j hj)] at hle
  exact_mod_cast hle

lemma Regular.sum_cost_le (hij : i ≤ j) (hj : j < n) :
    ∑ k ∈ Finset.Icc i j, l.cost (calls k).bytes ≤
      l.released next calls j - l.released next calls i + max l.burst (l.cost (calls i).bytes) := by
  have hle := VirtualSchedule.sum_cost_le (l.burst : ℤ) (next : ℤ)
    (l.requests calls) hij
  rw [← released_eq (h.start i (by omega)), ← released_eq (h.start j hj),
    ← Nat.cast_sub (h.released_le hij hj)] at hle
  simp only [requests] at hle
  exact_mod_cast hle

/-- All calls that are released in a period, where the first of them is for some bytes. -/
lemma Regular.sum_cost_between_le (hij : i ≤ j) (hj : j < n) (hpos : 0 < (calls i).bytes) :
    ∑ k ∈ Finset.range n with l.released next calls i ≤ l.released next calls k ∧
        l.released next calls k ≤ l.released next calls j, l.cost (calls k).bytes ≤
      l.released next calls j - l.released next calls i + max l.burst (l.cost (calls i).bytes) := by
  have hle := VirtualSchedule.sum_cost_between_le (l.burst : ℤ) (next : ℤ)
    (l.requests calls) hij hj (fun k hk => Int.ofNat_le.mpr (h.clock k hk))
    (fun k _ => Int.natCast_nonneg _)
    (Int.natCast_pos.mpr (l.cost_pos (h.bytes i (by omega)) hpos))
  rw [← released_eq (h.start i (by omega)), ← released_eq (h.start j hj),
    ← Nat.cast_sub (h.released_le hij hj)] at hle
  have hperiod : ∀ k ∈ Finset.range n,
      (VirtualSchedule.release (l.burst : ℤ) next (l.requests calls) k) = l.released next calls k :=
    fun k hk => (released_eq (h.start k (Finset.mem_range.mp hk))).symm
  rw [Finset.filter_congr fun k hk => by rw [hperiod k hk, Nat.cast_le, Nat.cast_le]] at hle
  simp only [requests] at hle
  exact_mod_cast hle

end Regular

/-- **What a limiter lets through.**  For every limiter and every history of its reservations: the
calls are released in their order; the costs are the times of the blocks, rounded up; the cost of
the calls from one to another is at most the time between their releases and the burst, or the
cost of the first; and so are the bytes at the rate, also when all calls are counted that are
released in this period. -/
theorem released_bytes_le (l : Limited) (next : ℕ) (calls : ℕ → Reservation) (n : ℕ)
    (h : l.Regular calls n) :
    (∀ k < n, l.cost (calls k).bytes = ⌈((calls k).bytes * 10 ^ 9 : ℚ) / l.rate⌉₊) ∧
      ∀ i j, i ≤ j → j < n →
        l.released next calls i ≤ l.released next calls j ∧
        ∑ k ∈ Finset.Icc i j, l.cost (calls k).bytes ≤
          l.released next calls j - l.released next calls i + max l.burst (l.cost (calls i).bytes) ∧
        (∑ k ∈ Finset.Icc i j, (calls k).bytes) * 10 ^ 9 ≤
          l.rate * (l.released next calls j - l.released next calls i +
            max l.burst (l.cost (calls i).bytes)) ∧
        (0 < (calls i).bytes →
          (∑ k ∈ Finset.range n with l.released next calls i ≤ l.released next calls k ∧
            l.released next calls k ≤ l.released next calls j, (calls k).bytes) * 10 ^ 9 ≤
          l.rate * (l.released next calls j - l.released next calls i +
            max l.burst (l.cost (calls i).bytes))) := by
  refine ⟨fun k hk => cost_eq_ceil (h.bytes k hk), fun i j hij hj => ?_⟩
  refine ⟨h.released_le hij hj, h.sum_cost_le hij hj, ?_, fun hpos => ?_⟩
  · refine sum_bytes_le (fun k hk => h.bytes k ?_) (h.sum_cost_le hij hj)
    have hkj := (Finset.mem_Icc.mp hk).2
    omega
  · refine sum_bytes_le (fun k hk => h.bytes k ?_) (h.sum_cost_between_le hij hj hpos)
    exact Finset.mem_range.mp (Finset.mem_filter.mp hk).1

/-- At 1000 bytes each second, from one second after the origin of the clock. -/
def sample : Limited := .new ⟨1000, by decide⟩

/-- Blocks of 50 bytes, all reserved at once. -/
def sampleCalls (_ : ℕ) : Reservation := ⟨50, 1000000000⟩

/-- Two blocks use up the burst; of the last three, the burst and 100 ms let 200 bytes through. -/
theorem sample_blocks_released :
    sample.released 1000000000 sampleCalls 1 = 1000000000 ∧
      sample.released 1000000000 sampleCalls 3 = 1100000000 ∧
      (∑ _k ∈ Finset.Icc 1 3, 50) * 10 ^ 9 ≤ 1000 * (100000000 + 100000000) := by
  have hregular : sample.Regular sampleCalls 4 :=
    ⟨fun _ _ => le_rfl, fun _ _ => by show 100000000 ≤ 1000000000; omega,
      fun _ _ => by show 50 ≤ 65535; omega⟩
  have hfirst : sample.released 1000000000 sampleCalls 1 = 1000000000 := by decide
  have hlast : sample.released 1000000000 sampleCalls 3 = 1100000000 := by decide
  obtain ⟨-, hbound⟩ := released_bytes_le sample 1000000000 sampleCalls 4 hregular
  obtain ⟨-, -, hbytes, -⟩ := hbound 1 3 (by decide) (by decide)
  rw [hfirst, hlast] at hbytes
  exact ⟨hfirst, hlast, hbytes⟩

end Limited

end GateRust.Tunnel.RateLimit
