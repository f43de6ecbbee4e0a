import Scaffold.Proofs.Naming.ClassName
import Scaffold.Proofs.Naming.Snake
/-!
# Proofs.Naming.Capitalised — names of capitalised words

A name in Pascal case is a row of capitalised words.  Every capital in it but the first begins a word, so in snake case
the words are apart (`spaced_flatten`), and cut at the underscores they are found again.  From this come the other names
of the entity: Pascal case gives the name back, and table and path have the words with the last in the plural
(`names_of_words`).
-/
namespace Scaffold
namespace Naming

open Text

/-- **A capitalised word**: an ASCII capital with small ASCII letters behind it, one at least. -/
def Capitalised : List Char → Prop
  | [] => False
  | u :: t => isUpperAscii u = true ∧ t ≠ [] ∧ ∀ c ∈ t, isLowerAscii c = true

instance : DecidablePred Capitalised
  | [] => inferInstanceAs (Decidable False)
  | u :: t => decidable_of_iff (isUpperAscii u = true ∧ t ≠ [] ∧ t.all isLowerAscii = true)
    (by rw [List.all_eq_true, Capitalised])

/-! ## Words apart -/

theorem spaced_append_capital {u : Char} (hu : isUpperAscii u = true) (rest : List Char) : ∀ {t : List Char} {c : Char},
    isLowerAscii c = true → (∀ d ∈ t, isLowerAscii d = true) →
      spaced (c :: t ++ u :: rest) = c :: t ++ '_' :: spaced (u :: rest)
  | [], c, hc, _ => by
    rw [List.cons_append, List.nil_append, spaced, if_pos (by simp [beginsWord, hu, hc])]
    rfl
  | d :: t, c, _, ht => by
    obtain ⟨hd, ht⟩ := List.forall_mem_cons.1 ht
    have ih := spaced_append_capital hu rest hd ht
    rw [List.cons_append, List.cons_append, spaced_of_not_upper (not_isUpperAscii_of_isLowerAscii hd),
      ← List.cons_append, ih]
    rfl

namespace Capitalised

variable {w : List Char}

theorem exists_eq (h : Capitalised w) : ∃ u c t, w = u :: c :: t ∧ isUpperAscii u = true ∧
    isLowerAscii c = true ∧ ∀ d ∈ t, isLowerAscii d = true := by
  match w, h with
  | u :: c :: t, ⟨hu, _, ht⟩ => exact ⟨u, c, t, rfl, hu, List.forall_mem_cons.1 ht⟩
  | [_], ⟨_, hne, _⟩ => exact absurd rfl hne

theorem spaced_append (h : Capitalised w) {u : Char} (hu : isUpperAscii u = true) (rest : List Char) :
    spaced (w ++ u :: rest) = w ++ '_' :: spaced (u :: rest) := by
  obtain ⟨v, c, t, rfl, -, hc, ht⟩ := h.exists_eq
  rw [List.cons_append, List.cons_append, spaced_of_not_upper (not_isUpperAscii_of_isLowerAscii hc), ← List.cons_append,
    spaced_append_capital hu rest hc ht]
  rfl

theorem spaced_eq (h : Capitalised w) : spaced w = w := by
  obtain ⟨v, c, t, rfl, -, hc, ht⟩ := h.exists_eq
  have hsmall : ∀ d ∈ c :: t, isUpperAscii d = false :=
    List.forall_mem_cons.2 ⟨not_isUpperAscii_of_isLowerAscii hc, fun d hd => not_isUpperAscii_of_isLowerAscii (ht d hd)⟩
  rw [spaced_of_not_upper (hsmall c List.mem_cons_self), spaced_eq_self hsmall]

theorem toNat_lt (h : Capitalised w) : ∀ c ∈ w, c.toNat < 128 := by
  obtain ⟨v, c, t, rfl, hv, hc, ht⟩ := h.exists_eq
  simp only [isUpperAscii, isLowerAscii, Bool.and_eq_true, decide_eq_true_eq] at hv hc ht
  refine List.forall_mem_cons.2 ⟨by omega, List.forall_mem_cons.2 ⟨by omega, fun d hd => ?_⟩⟩
  have := ht d hd
  omega

theorem lower_spec (h : Capitalised w) :
    lower w ≠ [] ∧ (∀ c ∈ lower w, isLowerAscii c = true) ∧ capitalize (lower w) = w := by
  obtain ⟨u, c, t, rfl, hu, hc, ht⟩ := h.exists_eq
  have hlower : ∀ d ∈ c :: t, isLowerAscii d = true := List.forall_mem_cons.2 ⟨hc, ht⟩
  have hself : ∀ d ∈ c :: t, small d = d := fun d hd => by
    rw [small, if_neg (by simp [not_isUpperAscii_of_isLowerAscii (hlower d hd)])]
  have hall : ∀ n < 128, isUpperAscii (Char.ofNat n) = true →
      isLowerAscii (small (Char.ofNat n)) = true ∧ capital (small (Char.ofNat n)) = Char.ofNat n := by decide
  obtain ⟨hsmall, hcapital⟩ := forall_ascii (P := fun c => isUpperAscii c = true →
    isLowerAscii (small c) = true ∧ capital (small c) = c) hall (h.toNat_lt u List.mem_cons_self) hu
  have hlowered : lower (u :: c :: t) = small u :: c :: t := by
    rw [lower_eq_map h.toNat_lt, List.map_cons, List.map_congr_left hself, List.map_id']
  rw [hlowered, capitalize_cons (isIdentifierPart_of_start (by simp [isIdentifierStart, hsmall])), hcapital]
  exact ⟨List.cons_ne_nil _ _, List.forall_mem_cons.2 ⟨hsmall, hlower⟩, rfl⟩

end Capitalised

/-- **Capitalised words are set apart**, each of them. -/
theorem spaced_flatten : ∀ {ws : List (List Char)}, (∀ w ∈ ws, Capitalised w) → spaced ws.flatten = join ['_'] ws
  | [], _ => rfl
  | [w], h => by
    rw [List.flatten_cons, List.flatten_nil, List.append_nil]
    exact (h w List.mem_cons_self).spaced_eq
  | w :: v :: ws, h => by
    obtain ⟨hw, hrest⟩ := List.forall_mem_cons.1 h
    have ih := spaced_flatten hrest
    obtain ⟨u, c, t, rfl, hu, -, -⟩ := (hrest v List.mem_cons_self).exists_eq
    rw [List.flatten_cons, join_cons _ (List.cons_ne_nil _ ws), ← ih, List.flatten_cons (l := u :: c :: t),
      List.cons_append, hw.spaced_append hu, List.append_assoc]
    rfl

/-! ## The names of an entity -/

section Words

variable {ws : List (List Char)}

theorem snake_flatten (h : ∀ w ∈ ws, Capitalised w) : snake ws.flatten = join ['_'] (ws.map lower) := by
  have hascii : ∀ c ∈ ws.flatten, c.toNat < 128 := fun c hc => by
    obtain ⟨w, hw, hc⟩ := List.mem_flatten.1 hc
    exact (h w hw).toNat_lt c hc
  have hlower : ws.map (List.map small) = ws.map lower :=
    List.map_congr_left (fun w hw => (lower_eq_map (h w hw).toNat_lt).symm)
  rw [snake_eq_map hascii, spaced_flatten h, map_join, hlower]
  rfl

theorem not_mem_of_isLowerAscii {w : List Char} (h : ∀ c ∈ w, isLowerAscii c = true) : '_' ∉ w := fun hmem =>
  absurd (h _ hmem) (by decide)

theorem words_snake_flatten (h : ∀ w ∈ ws, Capitalised w) : words '_' (snake ws.flatten) = ws.map lower := by
  rw [snake_flatten h]
  exact words_join (List.forall_mem_map.2 (fun w hw => not_mem_of_isLowerAscii (h w hw).lower_spec.2.1))
    (List.forall_mem_map.2 (fun w hw => (h w hw).lower_spec.1))

theorem isPlainIdentifier_flatten (hne : ws ≠ []) (h : ∀ w ∈ ws, Capitalised w) :
    isPlainIdentifier ws.flatten = true := by
  have hparts : ∀ c ∈ ws.flatten, isIdentifierPart c = true := fun c hc => by
    obtain ⟨w, hw, hc⟩ := List.mem_flatten.1 hc
    obtain ⟨u, d, t, rfl, hu, hd, ht⟩ := (h w hw).exists_eq
    refine isIdentifierPart_of_start ?_
    rcases List.mem_cons.1 hc with rfl | hc
    · simp [isIdentifierStart, hu]
    · rcases List.mem_cons.1 hc with rfl | hc
      · simp [isIdentifierStart, hd]
      · simp [isIdentifierStart, ht c hc]
  obtain ⟨w, ws, rfl⟩ := List.exists_cons_of_ne_nil hne
  obtain ⟨u, d, t, rfl, hu, -, -⟩ := (h w List.mem_cons_self).exists_eq
  refine isPlainIdentifier_eq_true.2 ⟨u, _, rfl, by simp [isIdentifierStart, hu], fun c hc => hparts c ?_⟩
  exact List.mem_cons_of_mem u hc

/-- **Pascal case gives the name back.** -/
theorem pascal_snake_flatten (hne : ws ≠ []) (h : ∀ w ∈ ws, Capitalised w) :
    pascal (snake ws.flatten) = ws.flatten := by
  have hback : (ws.map lower).map capitalize = ws := by
    rw [List.map_map]
    exact (List.map_congr_left (fun w hw => (h w hw).lower_spec.2.2)).trans (List.map_id' ws)
  rw [pascal_eq (isPlainIdentifier_snake (isPlainIdentifier_flatten hne h)), words_snake_flatten h,
    if_neg (by simpa using hne), hback]

theorem table_flatten (hne : ws ≠ []) (h : ∀ w ∈ ws, Capitalised w) :
    table ws.flatten = join ['_'] (ws.dropLast.map lower ++ [plural (lower (ws.getLast hne))]) := by
  have hwords := words_snake_flatten h
  have hmap : ws.map lower ≠ [] := by simpa using hne
  rw [table_eq (by rwa [hwords]), hwords, changeLast_eq plural hmap, List.getLast_map, List.map_dropLast]

theorem path_flatten (hne : ws ≠ []) (h : ∀ w ∈ ws, Capitalised w) :
    path ws.flatten = join ['-'] (ws.dropLast.map lower ++ [plural (lower (ws.getLast hne))]) := by
  have hending : ∀ c ∈ ['i', 'e', 's'], isLowerAscii c = true := List.all_eq_true.1 (by decide)
  rw [path, table_flatten hne h]
  refine replace_join
    (List.forall_mem_append.2 ⟨List.forall_mem_map.2 (fun w hw => ?_), List.forall_mem_singleton.2 ?_⟩)
  · exact not_mem_of_isLowerAscii (h w ((List.dropLast_sublist ws).subset hw)).lower_spec.2.1
  · exact not_mem_of_isLowerAscii (forall_mem_plural hending (h _ (List.getLast_mem hne)).lower_spec.2.1)

/-- **The names of an entity whose name is a row of capitalised words.**  Snake case has the words in lower case, apart
by single underscores, and Pascal case makes the name of them again.  The table has the same words with the last one in
the plural, and the path is the table with hyphens for underscores. -/
theorem names_of_words (hne : ws ≠ []) (h : ∀ w ∈ ws, Capitalised w) :
    snake ws.flatten = join ['_'] (ws.map lower) ∧
    pascal (snake ws.flatten) = ws.flatten ∧
    table ws.flatten = join ['_'] (ws.dropLast.map lower ++ [plural (lower (ws.getLast hne))]) ∧
    path ws.flatten = replace '_' '-' (table ws.flatten) ∧
    path ws.flatten = join ['-'] (ws.dropLast.map lower ++ [plural (lower (ws.getLast hne))]) :=
  ⟨snake_flatten h, pascal_snake_flatten hne h, table_flatten hne h, rfl, path_flatten hne h⟩

end Words

/-- **Three words**: the first pass finds the second of them and misses the third. -/
theorem names_of_orderItemCategory : let ws := ["Order".toList, "Item".toList, "Category".toList]
    ws ≠ [] ∧ (∀ w ∈ ws, Capitalised w) ∧ breakWords false ws.flatten = "Order_ItemCategory".toList ∧
      snake ws.flatten = "order_item_category".toList ∧ pascal (snake ws.flatten) = "OrderItemCategory".toList ∧
      table ws.flatten = "order_item_categories".toList ∧ path ws.flatten = "order-item-categories".toList := by
  have hwords : ∀ w ∈ ["Order".toList, "Item".toList, "Category".toList], Capitalised w := by decide
  obtain ⟨hsnake, hpascal, htable, -, hpath⟩ := names_of_words (List.cons_ne_nil _ _) hwords
  exact ⟨List.cons_ne_nil _ _, hwords, by decide, hsnake.trans (by decide), hpascal.trans (by decide),
    htable.trans (by decide), hpath.trans (by decide)⟩

end Naming
end Scaffold
