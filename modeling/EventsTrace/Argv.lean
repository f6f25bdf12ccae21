import EventsTrace.CString
import Mathlib.Data.List.DropRight

/-!
# `out_argv`

The kernel records an exec's arguments as one buffer in which each argument ends with a NUL,
followed by padding. `out_argv` copies the buffer, turns every NUL into a space, then walks
back from the second-to-last byte and writes a NUL after the first byte that is not a space.

So the string `out_string` receives is the buffer without its last byte, NULs read as spaces,
with every trailing space removed: the padding and the last terminator, but also spaces that
end the last argument and the separators of trailing empty arguments. When nothing is left the
loop writes no NUL at all, and `out_string` would read past the copy.
-/

namespace EventsTrace

/-! ### The two loops -/

/-- `out_argv`'s first loop, on one byte: a NUL becomes a space. -/
def nulToSpace (b : UInt8) : UInt8 := if b = 0 then 0x20 else b

/-- `out_argv`'s second loop, run from index `i - 1` down to `0`: at the first byte that is not
a space it writes a NUL right after it and stops. -/
def argvTrim (s : List UInt8) : Nat → List UInt8
  | 0 => s
  | i + 1 => if s.getD i 0 ≠ 0x20 then s.set (i + 1) 0 else argvTrim s i

/-- The scratch copy `out_argv` hands to `out_string`; the second loop starts at
`buf_size - 2`. -/
def argvScratch (buf : List UInt8) : List UInt8 :=
  argvTrim (buf.map nulToSpace) (buf.length - 1)

/-- `out_argv(name, buf, sizeof(buf))`. -/
def outArgv (sign : CharSign) (name : String) (buf : List UInt8) : Option (List Char) :=
  outString sign name (argvScratch buf)

lemma nulToSpace_ne_zero (b : UInt8) : nulToSpace b ≠ 0 := by
  unfold nulToSpace; split <;> simp_all

/-- The trimming loop writes its NUL right after the last byte of `s.take i` that is not a
space, and changes nothing when there is none. -/
lemma argvTrim_eq (s : List UInt8) {i : Nat} (hi : i < s.length) :
    argvTrim s i =
      let t := (s.take i).rdropWhile (· == 0x20)
      if t = [] then s else s.set t.length 0 := by
  induction i with
  | zero => simp [argvTrim, List.rdropWhile_nil]
  | succ i ih =>
    have hget : s.getD i 0 = s[i] := by
      rw [List.getD_eq_getElem?_getD, List.getElem?_eq_getElem (by omega)]; rfl
    rw [argvTrim, hget, List.take_succ, List.getElem?_eq_getElem (by omega), Option.toList_some]
    dsimp only
    by_cases hs : s[i] = 0x20
    · rw [if_neg (not_not.mpr hs), ih (by omega), List.rdropWhile_concat_pos _ _ _ (by simpa)]
    · rw [if_pos hs, List.rdropWhile_concat_neg _ _ _ (by simpa),
        if_neg (by simp [List.ne_nil_of_length_pos (show 0 < s.length by omega)])]
      simp [Nat.min_eq_left (show i + 1 ≤ s.length by omega)]

/-- `out_argv` hands `out_string` the buffer without its last byte, NULs read as spaces and
trailing spaces dropped; when nothing is left, the scratch copy holds no NUL. -/
theorem cString?_argvScratch (buf : List UInt8) :
    cString? (argvScratch buf) =
      let t := ((buf.map nulToSpace).take (buf.length - 1)).rdropWhile (· == 0x20)
      if t = [] then none else some t := by
  have hs : 0 ∉ buf.map nulToSpace := by simp [nulToSpace_ne_zero]
  rcases Nat.eq_zero_or_pos buf.length with h0 | hpos
  · rw [List.length_eq_zero.mp h0]; rfl
  rw [argvScratch, argvTrim_eq _ (by simpa using Nat.sub_lt hpos Nat.one_pos)]
  dsimp only
  split
  · exact cString?_eq_none hs
  · next ht =>
    set t := ((buf.map nulToSpace).take (buf.length - 1)).rdropWhile (· == 0x20)
    have hpre : t <+: (buf.map nulToSpace).take (buf.length - 1) := List.rdropWhile_prefix _ _
    have hle : t.length ≤ buf.length - 1 := by
      have := hpre.length_le; simp at this; omega
    have ht' : t = (buf.map nulToSpace).take t.length := by
      conv_lhs => rw [List.prefix_iff_eq_take.mp hpre]
      rw [List.take_take, Nat.min_eq_left hle]
    rw [List.set_eq_take_append_cons_drop, if_pos (by simp; omega), ← ht',
      cString?_append_nul (fun h => hs (hpre.subset h |> List.mem_of_mem_take))]

/-- `out_argv` has no output exactly when every byte but the last of the buffer is a NUL or a
space: then its scratch copy holds no NUL. -/
lemma outArgv_eq_none_iff (sign : CharSign) (name : String) (buf : List UInt8) :
    outArgv sign name buf = none ↔ ∀ b ∈ buf.take (buf.length - 1), b = 0 ∨ b = 0x20 := by
  have key : cString? (argvScratch buf) = none ↔
      ((buf.map nulToSpace).take (buf.length - 1)).rdropWhile (· == 0x20) = [] := by
    rw [cString?_argvScratch]
    dsimp only
    split
    · exact iff_of_true rfl ‹_›
    · exact iff_of_false (by simp) ‹_›
  rw [outArgv, outString, Option.map_eq_none', key, List.rdropWhile_eq_nil_iff, ← List.map_take]
  simp only [List.mem_map, beq_iff_eq, forall_exists_index, and_imp, forall_apply_eq_imp_iff₂]
  refine forall₂_congr fun b _ => ?_
  unfold nulToSpace; split <;> simp_all

/-! ### Argument vectors -/

/-- The buffer the kernel fills for the arguments `args`: each argument and its NUL, then
`pad` bytes of NUL padding. -/
def argvEncoding (args : List (List UInt8)) (pad : Nat) : List UInt8 :=
  args.flatMap (· ++ [0]) ++ List.replicate pad 0

/-- The arguments joined with one space between each two, as the spec words the decoded
argument vector. -/
def spaceJoin : List (List UInt8) → List UInt8
  | [] => []
  | [a] => a
  | a :: b :: as => a ++ 0x20 :: spaceJoin (b :: as)

lemma map_nulToSpace_of_nul_not_mem {a : List UInt8} (h : 0 ∉ a) : a.map nulToSpace = a := by
  conv_rhs => rw [← List.map_id a]
  exact List.map_congr_left fun b hb => by simp [nulToSpace, show b ≠ 0 from fun e => h (e ▸ hb)]

/-- With NULs read as spaces, each argument ends with a space; all but the last are the
separators of the join. -/
lemma map_nulToSpace_flatMap (args : List (List UInt8)) (h0 : ∀ a ∈ args, 0 ∉ a)
    (hne : args ≠ []) :
    (args.flatMap (· ++ [0])).map nulToSpace = spaceJoin args ++ [0x20] := by
  induction args with
  | nil => exact absurd rfl hne
  | cons a as ih =>
    have ha : a.map nulToSpace = a := map_nulToSpace_of_nul_not_mem (h0 a (by simp))
    cases as with
    | nil => simp [ha, nulToSpace, spaceJoin]
    | cons b bs =>
      rw [List.flatMap_cons, List.map_append, ih (fun c hc => h0 c (by simp [hc])) (by simp)]
      simp [ha, nulToSpace, spaceJoin]

lemma rdropWhile_append_spaces (l : List UInt8) (k : Nat) :
    (l ++ List.replicate k 0x20).rdropWhile (· == 0x20) = l.rdropWhile (· == 0x20) := by
  induction k with
  | zero => simp
  | succ k ih =>
    rw [List.replicate_succ', ← List.append_assoc, List.rdropWhile_concat_pos _ _ _ (by rfl), ih]

/-- For NUL-free arguments, the scratch copy holds the space-join without its trailing spaces,
or no NUL at all when the join is nothing but spaces. -/
lemma cString?_argvScratch_argvEncoding (args : List (List UInt8)) (pad : Nat)
    (h0 : ∀ a ∈ args, 0 ∉ a) :
    cString? (argvScratch (argvEncoding args pad)) =
      let t := (spaceJoin args).rdropWhile (· == 0x20)
      if t = [] then none else some t := by
  have hbuf : (argvEncoding args pad).map nulToSpace =
      spaceJoin args ++ List.replicate (pad + if args = [] then 0 else 1) 0x20 := by
    by_cases hne : args = []
    · subst hne; simp [argvEncoding, spaceJoin, nulToSpace]
    · rw [argvEncoding, List.map_append, map_nulToSpace_flatMap args h0 hne, if_neg hne,
        List.append_assoc, List.map_replicate, List.replicate_succ]
      simp [nulToSpace]
  have hlen : (argvEncoding args pad).length =
      (spaceJoin args).length + (pad + if args = [] then 0 else 1) := by
    rw [← List.length_map _ nulToSpace, hbuf, List.length_append, List.length_replicate]
  have htake : ((argvEncoding args pad).map nulToSpace).take ((argvEncoding args pad).length - 1)
      = spaceJoin args ++ List.replicate (pad + (if args = [] then 0 else 1) - 1) 0x20 := by
    rw [hbuf, hlen, List.take_append_eq_append_take, List.take_replicate]
    by_cases hne : args = []
    · subst hne; simp [spaceJoin]
    · rw [if_neg hne, List.take_of_length_le (by omega)]
      congr 2; omega
  rw [cString?_argvScratch, htake, rdropWhile_append_spaces]

/-- Given NUL-free arguments whose join holds a byte other than a space, `out_argv` hands
`out_string` the space-join with all of its trailing spaces removed, and prints it. -/
theorem outArgv_argvEncoding (sign : CharSign) (name : String) (args : List (List UInt8))
    (pad : Nat) (h0 : ∀ a ∈ args, 0 ∉ a) (hsp : ∃ b ∈ spaceJoin args, b ≠ 0x20) :
    cString? (argvScratch (argvEncoding args pad)) =
        some ((spaceJoin args).rdropWhile (· == 0x20)) ∧
      outArgv sign name (argvEncoding args pad) =
        some (outName name ++ stringLiteral sign ((spaceJoin args).rdropWhile (· == 0x20))) := by
  have ht : (spaceJoin args).rdropWhile (· == 0x20) ≠ [] := by
    obtain ⟨b, hb, hb'⟩ := hsp
    rw [Ne, List.rdropWhile_eq_nil_iff]
    exact fun h => hb' (by simpa using h b hb)
  have hc : cString? (argvScratch (argvEncoding args pad)) =
      some ((spaceJoin args).rdropWhile (· == 0x20)) := by
    rw [cString?_argvScratch_argvEncoding args pad h0]; exact if_neg ht
  exact ⟨hc, by rw [outArgv, outString, hc]; rfl⟩

theorem outArgv_argvEncoding_ls :
    (∀ a ∈ ([[0x6c, 0x73], [0x2d, 0x6c]] : List (List UInt8)), (0 : UInt8) ∉ a) ∧
      (∃ b ∈ spaceJoin [[0x6c, 0x73], [0x2d, 0x6c]], b ≠ 0x20) ∧
      cString? (argvScratch (argvEncoding [[0x6c, 0x73], [0x2d, 0x6c]] 3)) =
        some ((spaceJoin [[0x6c, 0x73], [0x2d, 0x6c]]).rdropWhile (· == 0x20)) ∧
      outArgv .signed "argv" (argvEncoding [[0x6c, 0x73], [0x2d, 0x6c]] 3) =
        some (outName "argv" ++
          stringLiteral .signed ((spaceJoin [[0x6c, 0x73], [0x2d, 0x6c]]).rdropWhile (· == 0x20))) :=
  ⟨by decide, by decide, outArgv_argvEncoding .signed "argv" [[0x6c, 0x73], [0x2d, 0x6c]] 3
    (by decide) (by decide)⟩

/-- The arguments `a` and an empty one fill four bytes with one byte of padding, yet
`out_argv` hands `out_string` the string `a`, not the space-join `a `. -/
theorem outArgv_drops_trailing_empty_argument :
    2 ≤ (argvEncoding [[0x61], []] 1).length ∧
      (∀ a ∈ ([[0x61], []] : List (List UInt8)), (0 : UInt8) ∉ a) ∧
      cString? (argvScratch (argvEncoding [[0x61], []] 1)) = some [0x61] ∧
      spaceJoin [[0x61], []] = [0x61, 0x20] := by
  decide

/-- The one argument `a ` fills three bytes, its NUL the last, with no padding; `out_argv` trims
the space that ends the argument and hands `out_string` the string `a`. -/
theorem outArgv_drops_trailing_space :
    argvEncoding [[0x61, 0x20]] 0 = [0x61, 0x20, 0] ∧
      (∀ a ∈ ([[0x61, 0x20]] : List (List UInt8)), (0 : UInt8) ∉ a) ∧
      cString? (argvScratch (argvEncoding [[0x61, 0x20]] 0)) = some [0x61] ∧
      spaceJoin [[0x61, 0x20]] = [0x61, 0x20] := by
  decide

end EventsTrace
