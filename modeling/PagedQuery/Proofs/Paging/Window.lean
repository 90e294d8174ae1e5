/-
# The rows of a page

`PageInfo.window` is what a page is of a list of rows: the rows after the pages before
it, as many as its size.  The product that counts the rows before it is the
mathematical one.  The offset of a page stops at the largest word instead, and the two
agree on every list with fewer than `2 ^ 64` rows (`drop_offset`): an offset that does
not fit is beyond the last row either way.

The pages of one size that a list fills are its `cover`; their windows, one after
another, are the list (`flatMap_window_cover`).
-/

import Mathlib.Data.List.Basic
import PagedQuery.PageInfo

namespace PagedQuery
namespace PageInfo

variable {α : Type}

/-- The rows of a page.  The rows before it are counted without a bound, unlike the page's own
offset. -/
def window (p : PageInfo) (rows : List α) : List α :=
  (rows.drop ((p.pageNo.toNat - 1) * p.pageSize.toNat)).take p.pageSize.toNat

/-- A page has rows of the list only. -/
theorem mem_of_mem_window (p : PageInfo) {rows : List α} {row : α} (h : row ∈ p.window rows) :
    row ∈ rows :=
  List.mem_of_mem_drop (List.mem_of_mem_take h)

/-- A page is full or reaches the end of the rows. -/
theorem length_window (p : PageInfo) (rows : List α) :
    (p.window rows).length =
      min p.pageSize.toNat (rows.length - (p.pageNo.toNat - 1) * p.pageSize.toNat) := by
  rw [window, List.length_take, List.length_drop]

/-- An offset that is cut at the largest word drops the same rows. -/
theorem drop_offset (p : PageInfo) {rows : List α} (few : rows.length < UInt64.size) :
    rows.drop p.offset = rows.drop ((p.pageNo.toNat - 1) * p.pageSize.toNat) := by
  rw [offset]
  rcases Nat.le_total ((p.pageNo.toNat - 1) * p.pageSize.toNat) (UInt64.size - 1) with h | h
  · rw [Nat.min_eq_left h]
  · rw [Nat.min_eq_right h, List.drop_of_length_le (by omega), List.drop_of_length_le (by omega)]

/-- So the rows behind an offset that is cut make up the window of the page. -/
theorem take_drop_offset (p : PageInfo) {rows : List α} (few : rows.length < UInt64.size) :
    (rows.drop p.offset).take p.pageSize.toNat = p.window rows := by
  rw [p.drop_offset few, window]

/-- The pages of a size that so many rows fill, in order.  The last one may not be full. -/
def cover (size : UInt64) (count : Nat) (countTotal : Bool) : List PageInfo :=
  (List.range ((count + size.toNat - 1) / size.toNat)).map fun i =>
    .request (UInt64.ofNat (i + 1)) size countTotal

/-- Windows of one size, one after another, are the first rows. -/
theorem flatMap_windows (size : Nat) (rows : List α) (n : Nat) :
    (List.range n).flatMap (fun i => (rows.drop (i * size)).take size) = rows.take (n * size) := by
  induction n with
  | zero => simp
  | succ n ih =>
    rw [List.range_succ, List.flatMap_append, ih, List.flatMap_singleton, Nat.succ_mul,
      List.take_add]

section Cover

variable {size : UInt64} {count : Nat} {countTotal : Bool}

/-- So many pages of a size reach the last row. -/
theorem le_ceil_mul {size : Nat} (positive : 0 < size) (count : Nat) :
    count ≤ (count + size - 1) / size * size := by
  have division := Nat.div_add_mod (count + size - 1) size
  have remainder := Nat.mod_lt (count + size - 1) positive
  rw [Nat.mul_comm] at division
  omega

/-- Pages of a size that is not zero have room for a row. -/
theorem size_pos (h : size ≠ 0) : 0 < size.toNat :=
  Nat.pos_of_ne_zero fun zero => h (UInt64.toNat_inj.1 (by rw [zero]; rfl))

/-- The number of the last page fits in a word. -/
theorem toNat_number (h : size ≠ 0) (few : count < UInt64.size) {i : Nat}
    (hi : i < (count + size.toNat - 1) / size.toNat) : (UInt64.ofNat (i + 1)).toNat = i + 1 := by
  have pages : i + 1 ≤ count := by
    have reach := (Nat.lt_div_iff_mul_lt (size_pos h)).1 hi
    have grows := Nat.le_mul_of_pos_right i (size_pos h)
    omega
  exact UInt64.toNat_ofNat_of_lt' (Nat.lt_of_le_of_lt pages few)

/-- Every page of a cover exists. -/
theorem isValid_of_mem_cover (h : size ≠ 0) (few : count < UInt64.size) {p : PageInfo}
    (hp : p ∈ cover size count countTotal) : p.IsValid := by
  obtain ⟨i, hi, rfl⟩ := List.mem_map.1 hp
  refine ⟨fun zero => ?_, h⟩
  have number := toNat_number h few (List.mem_range.1 hi)
  have none : (UInt64.ofNat (i + 1)).toNat = 0 := congrArg UInt64.toNat zero
  omega

/-- The windows of the pages that a list fills are the list: no row is lost, repeated or
moved. -/
theorem flatMap_window_cover (h : size ≠ 0) {rows : List α} (few : rows.length < UInt64.size) :
    (cover size rows.length countTotal).flatMap (fun p => p.window rows) = rows := by
  have windows : ∀ i ∈ List.range ((rows.length + size.toNat - 1) / size.toNat),
      (request (UInt64.ofNat (i + 1)) size countTotal).window rows =
        (rows.drop (i * size.toNat)).take size.toNat := by
    intro i hi
    rw [window, request, toNat_number h few (List.mem_range.1 hi), Nat.add_sub_cancel]
  rw [cover, List.flatMap_map, List.flatMap_congr windows, flatMap_windows,
    List.take_of_length_le (le_ceil_mul (size_pos h) rows.length)]

end Cover

end PageInfo
end PagedQuery
