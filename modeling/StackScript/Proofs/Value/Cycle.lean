import StackScript.Proofs.NumberTree.Literal
import StackScript.Proofs.Value.Written

/-!
# Where printing is cut

An array that can be reached from itself, through the elements of arrays and the bodies of
procedures, is printed with `[...]` somewhere in it, and so is everything that leads to it. In the
other direction, where `[...]` is found in a text that no name has brought a bracket into, an array
was cut, and an array is cut only inside itself; or else `[...]` is the text of a whole array, whose
only element is a name that is written as three points (`Value.ellipsis_infix_iff`).

Going down from a value, what is written around it consists of arrays that it can be reached from.
So the first half is an induction along the way to the array, and the second one along what is
written, with the texts of values told apart by the brackets in them (`IsBare`, `IsEnclosed`).
-/

namespace StackScript

/-! ## Separated texts -/

namespace Text

variable {sep : Char} {l a b : List Char}

/-- What has no separator in it does not go across one. -/
theorem infix_of_infix_append_cons (hsep : sep ∉ l) (h : l <:+: a ++ sep :: b) :
    l <:+: a ∨ l <:+: b := by
  obtain h | h | ⟨l₁, l₂, rfl, hleft, hright⟩ := List.infix_append_iff.mp h
  · exact .inl h
  · obtain h | h := List.infix_cons_iff.mp h
    · obtain rfl | ⟨t, rfl, -⟩ := List.prefix_cons_iff.mp h
      · exact .inl List.nil_infix
      · exact absurd List.mem_cons_self hsep
    · exact .inr h
  · obtain rfl | ⟨t, rfl, -⟩ := List.prefix_cons_iff.mp hright
    · rw [List.append_nil]
      exact .inl hleft.isInfix
    · exact absurd (List.mem_append_right _ List.mem_cons_self) hsep

/-- What a text begins with ends before the separator if it has none in it. -/
theorem prefix_of_prefix_append_cons (hsep : sep ∉ l) (h : l <+: a ++ sep :: b) : l <+: a := by
  have hfirst : a ++ [sep] <+: a ++ sep :: b :=
    ⟨b, by rw [List.append_assoc, List.singleton_append]⟩
  obtain hle | hle := List.prefix_or_prefix_of_prefix h hfirst
  · obtain heq | hle := List.prefix_concat_iff.mp hle
    · exact absurd (heq ▸ List.mem_append_right _ List.mem_cons_self) hsep
    · exact hle
  · exact absurd (hle.subset (List.mem_append_right _ List.mem_cons_self)) hsep

/-- What a text ends with begins behind the separator if it has none in it. -/
theorem suffix_of_suffix_append_cons (hsep : sep ∉ l) (h : l <:+ a ++ sep :: b) : l <:+ b := by
  obtain hle | hle := List.suffix_or_suffix_of_suffix h (List.suffix_append a (sep :: b))
  · obtain rfl | hle := List.suffix_cons_iff.mp hle
    · exact absurd List.mem_cons_self hsep
    · exact hle
  · exact absurd (hle.subset List.mem_cons_self) hsep

/-- One of several texts is found in all of them with separators in between. -/
theorem infix_intercalate_of_mem (seps : List Char) {t : List Char} {ts : List (List Char)}
    (h : t ∈ ts) : t <:+: seps.intercalate ts := by
  induction ts with
  | nil => cases h
  | cons first ts ih =>
    cases ts with
    | nil =>
      obtain rfl := List.mem_singleton.mp h
      rw [List.intercalate_singleton]
    | cons next rest =>
      rw [List.intercalate_cons_cons]
      obtain rfl | h := List.mem_cons.mp h
      · rw [List.append_assoc]
        exact List.infix_append_left
      · exact (ih h).trans (List.suffix_append _ _).isInfix

variable {ts : List (List Char)}

/-- What does not go across a separator is true of one of several texts if it is true of all of them
with separators in between. -/
theorem exists_of_intercalate {P : List Char → Prop} (hnil : ¬ P [])
    (hsplit : ∀ {a b : List Char}, P (a ++ sep :: b) → P a ∨ P b)
    (h : P ([sep].intercalate ts)) : ∃ t ∈ ts, P t := by
  induction ts with
  | nil => exact absurd h hnil
  | cons first ts ih =>
    cases ts with
    | nil =>
      rw [List.intercalate_singleton] at h
      exact ⟨first, List.mem_cons_self, h⟩
    | cons next rest =>
      rw [List.intercalate_cons_cons, List.append_assoc] at h
      obtain h | h := hsplit h
      · exact ⟨first, List.mem_cons_self, h⟩
      · obtain ⟨t, ht, h⟩ := ih h
        exact ⟨t, List.mem_cons_of_mem _ ht, h⟩

/-- If they are together what has no separator in it, there is only one of them. -/
theorem eq_singleton_of_intercalate (hsep : sep ∉ l) (hne : l ≠ [])
    (h : [sep].intercalate ts = l) : ts = [l] := by
  match ts with
  | [] => exact absurd h.symm hne
  | [first] => rw [← h, List.intercalate_singleton]
  | first :: next :: rest =>
    rw [List.intercalate_cons_cons] at h
    have hmem : sep ∈ l :=
      h ▸ List.mem_append_left _ (List.mem_append_right _ List.mem_cons_self)
    exact absurd hmem hsep

end Text

/-! ## What leads where -/

/-- The name that a value shows, if it is a name, a bare name or an unknown symbol. -/
def Value.shownName? : Value → Option Name
  | .name n | .call n | .unknown n => some n
  | _ => none

namespace Store

/-- A value is an element of the array, or of the body of the procedure, that another value is. -/
def Holds (s : Store) (v w : Value) : Prop :=
  w ∈ Form.display.parts s v

/-- A value can be reached from another one, through elements of arrays and procedure bodies. -/
def Reaches (s : Store) : Value → Value → Prop :=
  Relation.ReflTransGen s.Holds

/-- An array can be reached from one of its own elements. -/
def IsCyclic (s : Store) (r : ArrayRef) : Prop :=
  Relation.TransGen s.Holds (.array r) (.array r)

/-- The only element of an array is a name that is written as three points, so that the array is
written in full as if it were cut short. -/
def LooksCut (s : Store) (r : ArrayRef) : Prop :=
  ∃ w n, (s.array r).toList = [w] ∧ w.shownName? = some n ∧ n.chars = ['.', '.', '.']

/-- A value can be reached from each of the arrays that are open around it. -/
def AllReach (s : Store) (path : List ArrayRef) (v : Value) : Prop :=
  ∀ p ∈ path, Relation.TransGen s.Holds (.array p) v

namespace AllReach

variable {s : Store} {path : List ArrayRef} {v w : Value}

/-- Nothing is open around a value that is written on its own. -/
theorem nil (s : Store) (v : Value) : s.AllReach [] v :=
  fun _ hp => absurd hp List.not_mem_nil

/-- If a value can be reached from the arrays around it, then so can what it holds, and from the
value itself if it is an array. -/
theorem step (h : s.AllReach path v) (hw : s.Holds v w) :
    s.AllReach ((Form.display.cell? v).toList ++ path) w := by
  intro p hp
  obtain hp | hp := List.mem_append.mp hp
  · cases v with
    | array r =>
      obtain rfl := List.mem_singleton.mp hp
      exact .single hw
    | _ => cases hp
  · exact (h p hp).tail hw

/-- An array that is cut can be reached from itself. -/
theorem isCyclic {r : ArrayRef} (h : s.AllReach path v) (hr : Form.display.cell? v = some r)
    (hopen : r ∈ path) : v = .array r ∧ s.IsCyclic r := by
  cases v with
  | array t =>
    obtain rfl := Option.some.inj hr
    exact ⟨rfl, h t hopen⟩
  | _ => cases hr

end AllReach

end Store

/-! ## An array that is cut is shown -/

namespace Form.Written

variable {s : Store} {path : List ArrayRef} {v w : Value} {text : List Char}

/-- What is written within a value is found in what is written for the value. -/
theorem infix_frame {texts : Value → List Char} (h : s.Holds v w) :
    texts w <:+: display.frame s v ((display.parts s v).map texts) := by
  have hmem : texts w ∈ (display.parts s v).map texts := List.mem_map_of_mem h
  have hfound := Text.infix_intercalate_of_mem [' '] hmem
  cases v with
  | array r => exact List.infix_cons (hfound.trans List.infix_append_left)
  | proc body => exact List.infix_cons (hfound.trans List.infix_append_left)
  | _ => cases h

/-- If an array always shows the mark where it is written around certain open arrays, then so does
everything that it can be reached from. -/
theorem ellipsis_infix_of_reaches {r : ArrayRef} (h : display.Written s path v text)
    (hreaches : s.Reaches v (.array r))
    (hshows : ∀ {path' text'}, path ⊆ path' → display.Written s path' (.array r) text' →
      Store.ellipsis <:+: text') : Store.ellipsis <:+: text := by
  -- what is written leads down to the array step by step, or is cut on the way there
  induction h with
  | cut => exact List.infix_rfl
  | @full path v texts hclosed hparts ih =>
    obtain rfl | ⟨w, hw, hfurther⟩ := hreaches.cases_head
    · exact hshows (List.Subset.refl path) (.full hclosed hparts)
    · have hinside := ih w hw hfurther fun hsub =>
        hshows (List.Subset.trans (List.subset_append_right _ path) hsub)
      exact hinside.trans (infix_frame hw)

/-- An array that can be reached from itself is cut somewhere. -/
theorem ellipsis_infix_of_isCyclic {r : ArrayRef} (hcyclic : s.IsCyclic r)
    (h : display.Written s path (.array r) text) : Store.ellipsis <:+: text := by
  cases h with
  | cut => exact List.infix_rfl
  | full hclosed hparts =>
    obtain ⟨w, hw, hback⟩ := Relation.TransGen.head'_iff.mp hcyclic
    refine (ellipsis_infix_of_reaches (hparts w hw) hback fun hsub h => ?_).trans (infix_frame hw)
    cases h with
    | cut => exact List.infix_rfl
    | full hclosed => exact absurd (hsub List.mem_cons_self) (hclosed r rfl)

/-- Names are written as they are. -/
theorem eq_chars {n : Name} (hname : v.shownName? = some n)
    (h : display.Written s path v text) : text = n.chars := by
  cases v with
  | name | call | unknown =>
    cases hname
    obtain ⟨texts, htext, -⟩ := h.eq_frame rfl
    exact htext
  | _ => cases hname

/-- An array of one name that is written as three points is cut or written as if it were. -/
theorem ellipsis_infix_of_looksCut {r : ArrayRef} (hlooks : s.LooksCut r)
    (h : display.Written s path (.array r) text) : Store.ellipsis <:+: text := by
  cases h with
  | cut => exact List.infix_rfl
  | @full _ _ texts hclosed hparts =>
    obtain ⟨w, n, hitems, hname, hpoints⟩ := hlooks
    have hparts' : display.parts s (.array r) = [w] := hitems
    rw [hparts'] at hparts
    have htext := (hparts w (List.mem_singleton_self w)).eq_chars hname
    rw [hparts', List.map_singleton, htext, hpoints]
    exact List.infix_rfl

end Form.Written

/-! ## Only what is cut is shown so -/

/-- Neither bracket is in a text. -/
def Text.IsBare (text : List Char) : Prop :=
  '[' ∉ text ∧ ']' ∉ text

/-- A text begins with an opening bracket or brace and ends with a closing one. -/
def Text.IsEnclosed (text : List Char) : Prop :=
  ∃ inside, text = '[' :: inside ++ [']'] ∨ text = '{' :: inside ++ ['}']

namespace Text

theorem isBare_bool (b : Bool) : IsBare (if b then "true" else "false").toList := by
  cases b <;> exact ⟨by decide, by decide⟩

theorem isBare_dict : IsBare "-dict-".toList :=
  ⟨by decide, by decide⟩

variable {text : List Char}

/-- A text of either kind does not begin with the end of the mark. -/
theorem not_prefix_of_shape (hshape : IsBare text ∨ IsEnclosed text) :
    ¬ ['.', '.', '.', ']'] <+: text := by
  intro h
  obtain hbare | ⟨inside, rfl | rfl⟩ := hshape
  · exact hbare.2 (h.subset (by decide))
  · exact absurd (List.cons_prefix_cons.mp h).1 (by decide)
  · exact absurd (List.cons_prefix_cons.mp h).1 (by decide)

/-- Nor does it end with the beginning of the mark. -/
theorem not_suffix_of_shape (hshape : IsBare text ∨ IsEnclosed text) :
    ¬ ['[', '.', '.', '.'] <:+ text := by
  have hlast {c : Char} {inside : List Char} (hc : c ≠ '.') :
      ¬ ['[', '.', '.', '.'] <:+ inside ++ [c] := by
    intro h
    obtain hnil | ⟨t, ht, -⟩ := List.suffix_concat_iff.mp h
    · cases hnil
    · have happend : ['[', '.', '.'] ++ ['.'] = t ++ [c] := ht
      exact hc (List.singleton_inj.mp (List.append_inj' happend rfl).2).symm
  intro h
  obtain hbare | ⟨inside, rfl | rfl⟩ := hshape
  · exact hbare.1 (h.subset (by decide))
  · exact hlast (by decide) h
  · exact hlast (by decide) h

variable {texts : List (List Char)}

/-- Where the mark is found within brackets, it is what the brackets enclose together with them, or
found in one of the texts between them. -/
theorem ellipsis_infix_brackets (hshape : ∀ t ∈ texts, IsBare t ∨ IsEnclosed t)
    (h : Store.ellipsis <:+: '[' :: [' '].intercalate texts ++ [']']) :
    texts = [['.', '.', '.']] ∨ ∃ t ∈ texts, Store.ellipsis <:+: t := by
  obtain h | h := List.infix_cons_iff.mp h
  · -- it begins at the opening bracket, and no text between them begins with its end
    obtain ⟨-, h⟩ := List.cons_prefix_cons.mp h
    obtain h | h := List.prefix_concat_iff.mp h
    · have happend : ['.', '.', '.'] ++ [']'] = [' '].intercalate texts ++ [']'] := h
      have hpoints := (List.append_inj' happend rfl).1.symm
      exact .inl (eq_singleton_of_intercalate (by decide) (by decide) hpoints)
    · obtain ⟨t, ht, hprefix⟩ := exists_of_intercalate (P := (['.', '.', '.', ']'] <+: ·))
        (by decide) (fun h => .inl (prefix_of_prefix_append_cons (by decide) h)) h
      exact absurd hprefix (not_prefix_of_shape (hshape t ht))
  · obtain h | h := List.infix_concat_iff.mp h
    · -- it ends at the closing bracket, and no text between them ends with its beginning
      obtain hnil | ⟨start, hstart, h⟩ := List.suffix_concat_iff.mp h
      · cases hnil
      · have happend : ['[', '.', '.', '.'] ++ [']'] = start ++ [']'] := hstart
        obtain rfl := (List.append_inj' happend rfl).1
        obtain ⟨t, ht, hsuffix⟩ := exists_of_intercalate (P := (['[', '.', '.', '.'] <:+ ·))
          (by decide) (fun h => .inr (suffix_of_suffix_append_cons (by decide) h)) h
        exact absurd hsuffix (not_suffix_of_shape (hshape t ht))
    · exact .inr (exists_of_intercalate (P := (Store.ellipsis <:+: ·)) (by decide)
        (infix_of_infix_append_cons (by decide)) h)

/-- Where it is found within braces, it is found in one of the texts between them. -/
theorem ellipsis_infix_braces (h : Store.ellipsis <:+: '{' :: [' '].intercalate texts ++ ['}']) :
    ∃ t ∈ texts, Store.ellipsis <:+: t := by
  obtain h | h := List.infix_cons_iff.mp h
  · exact absurd (List.cons_prefix_cons.mp h).1 (by decide)
  obtain h | h := List.infix_concat_iff.mp h
  · obtain hnil | ⟨start, hstart, -⟩ := List.suffix_concat_iff.mp h
    · cases hnil
    · have happend : ['[', '.', '.', '.'] ++ [']'] = start ++ ['}'] := hstart
      exact absurd (List.append_inj' happend rfl).2 (by decide)
  · exact exists_of_intercalate (P := (Store.ellipsis <:+: ·)) (by decide)
      (infix_of_infix_append_cons (by decide)) h

end Text

namespace Operator

/-- No symbol of an operator has a bracket. -/
theorem isBare_symbol (op : Operator) : Text.IsBare op.symbol.toList := by
  have hall : ∀ op ∈ all, '[' ∉ op.symbol.toList ∧ ']' ∉ op.symbol.toList := by decide
  exact hall op (mem_all op)

/-- None is three points. -/
theorem symbol_ne_points (op : Operator) : op.symbol.toList ≠ ['.', '.', '.'] := by
  have hall : ∀ op ∈ all, op.symbol.toList ≠ ['.', '.', '.'] := by decide
  exact hall op (mem_all op)

end Operator

namespace Number

/-- No number is written with brackets. -/
theorem isBare_chars (n : Number) : Text.IsBare n.chars := by
  by_cases h : n.IsFinite
  · constructor
    · exact fun hmem => absurd (mem_chars h hmem) (by decide)
    · exact fun hmem => absurd (mem_chars h hmem) (by decide)
  · obtain hchars | ⟨negative, hchars⟩ := chars_of_not_isFinite h <;> rw [hchars]
    · exact ⟨by decide, by decide⟩
    · cases negative <;> exact ⟨by decide, by decide⟩

/-- No number is written as three points. -/
theorem chars_ne_points (n : Number) : n.chars ≠ ['.', '.', '.'] := by
  intro hpoints
  by_cases h : n.IsFinite
  · have hread := read_chars h
    rw [hpoints] at hread
    cases hread
  · obtain hchars | ⟨negative, hchars⟩ := chars_of_not_isFinite h <;> rw [hchars] at hpoints
    · cases hpoints
    · cases negative <;> cases hpoints

end Number

namespace Form.Written

variable {s : Store} {path : List ArrayRef} {v : Value} {text : List Char}

/-- The texts of arrays and procedures are enclosed, and all others are bare, unless a name is
not. -/
theorem isBare_or_isEnclosed (h : display.Written s path v text)
    (hname : ∀ n, v.shownName? = some n → Text.IsBare n.chars) :
    Text.IsBare text ∨ Text.IsEnclosed text := by
  cases h with
  | cut => exact .inr ⟨['.', '.', '.'], .inl rfl⟩
  | full =>
    cases v with
    | number n => exact .inl n.isBare_chars
    | bool b => exact .inl (Text.isBare_bool b)
    | name n | call n | unknown n => exact .inl (hname n rfl)
    | array r => exact .inr ⟨_, .inl rfl⟩
    | proc body => exact .inr ⟨_, .inr rfl⟩
    | dict r => exact .inl Text.isBare_dict
    | operator op => exact .inl op.isBare_symbol

/-- What is written as three points is a name. -/
theorem exists_shownName (h : display.Written s path v text) (hpoints : text = ['.', '.', '.']) :
    ∃ n, v.shownName? = some n ∧ n.chars = ['.', '.', '.'] := by
  cases h with
  | cut => cases hpoints
  | full =>
    cases v with
    | number n => exact absurd hpoints n.chars_ne_points
    | bool b => cases b <;> cases hpoints
    | name n | call n | unknown n => exact ⟨n, rfl, hpoints⟩
    | array r => cases hpoints
    | proc body => cases hpoints
    | dict r => cases hpoints
    | operator op => exact absurd hpoints op.symbol_ne_points

/-- Where the mark is found in what is written in full, it is found in what is written within, or
the value is an array that looks as if it were cut. -/
theorem exists_of_ellipsis_infix {texts : Value → List Char}
    (hparts : ∀ w, s.Holds v w → ∃ path, display.Written s path w (texts w))
    (hnames : ∀ w n, s.Reaches v w → w.shownName? = some n → Text.IsBare n.chars)
    (h : Store.ellipsis <:+: display.frame s v ((display.parts s v).map texts)) :
    (∃ r, v = .array r ∧ s.LooksCut r) ∨ ∃ w, s.Holds v w ∧ Store.ellipsis <:+: texts w := by
  have hshape : ∀ t ∈ (display.parts s v).map texts, Text.IsBare t ∨ Text.IsEnclosed t := by
    intro t ht
    obtain ⟨w, hw, rfl⟩ := List.mem_map.mp ht
    obtain ⟨path, hwritten⟩ := hparts w hw
    exact hwritten.isBare_or_isEnclosed fun n => hnames w n (.single hw)
  have hmem (hsome : ∃ t ∈ (display.parts s v).map texts, Store.ellipsis <:+: t) :
      ∃ w, s.Holds v w ∧ Store.ellipsis <:+: texts w := by
    obtain ⟨t, ht, hfound⟩ := hsome
    obtain ⟨w, hw, rfl⟩ := List.mem_map.mp ht
    exact ⟨w, hw, hfound⟩
  have hbare {text : List Char} (htext : Text.IsBare text) : ¬ Store.ellipsis <:+: text :=
    fun hfound => htext.1 (hfound.subset (by decide))
  cases v with
  | array r =>
    obtain htexts | hsome := Text.ellipsis_infix_brackets hshape h
    · obtain ⟨w, hitems, hpoints⟩ := List.map_eq_singleton_iff.mp htexts
      have hw : s.Holds (.array r) w := by
        rw [Store.Holds, hitems]
        exact List.mem_singleton_self w
      obtain ⟨path, hwritten⟩ := hparts w hw
      obtain ⟨n, hname, hchars⟩ := hwritten.exists_shownName hpoints
      exact .inl ⟨r, rfl, w, n, hitems, hname, hchars⟩
    · exact .inr (hmem hsome)
  | proc body => exact .inr (hmem (Text.ellipsis_infix_braces h))
  | number n => exact absurd h (hbare n.isBare_chars)
  | bool b => exact absurd h (hbare (Text.isBare_bool b))
  | name n | call n | unknown n => exact absurd h (hbare (hnames _ n .refl rfl))
  | dict r => exact absurd h (hbare Text.isBare_dict)
  | operator op => exact absurd h (hbare op.isBare_symbol)

/-- Where the mark is found in what is written for a value, around which only arrays are open that
it can be reached from, some array that it leads to was cut or looks as if it were. -/
theorem exists_of_ellipsis (h : display.Written s path v text) (hopen : s.AllReach path v)
    (hnames : ∀ w n, s.Reaches v w → w.shownName? = some n → Text.IsBare n.chars)
    (hfound : Store.ellipsis <:+: text) :
    ∃ r, s.Reaches v (.array r) ∧ (s.IsCyclic r ∨ s.LooksCut r) := by
  induction h with
  | @cut path v r hr hmem =>
    obtain ⟨rfl, hcyclic⟩ := hopen.isCyclic hr hmem
    exact ⟨r, .refl, .inl hcyclic⟩
  | @full path v texts hclosed hparts ih =>
    obtain ⟨r, rfl, hlooks⟩ | ⟨w, hw, hinside⟩ :=
      exists_of_ellipsis_infix (fun w hw => ⟨_, hparts w hw⟩) hnames hfound
    · exact ⟨r, .refl, .inr hlooks⟩
    · obtain ⟨r, hreaches, hr⟩ :=
        ih w hw (hopen.step hw) (fun w' n hw' => hnames w' n (.head hw hw')) hinside
      exact ⟨r, .head hw hreaches, hr⟩

end Form.Written

/-- **The mark stands for cycles**: if no name that is reached has a bracket in it, `[...]` is found
in the text of a value exactly if it leads to an array that can be reached from itself, or to one
that only looks as if it were cut. -/
theorem Value.ellipsis_infix_iff {s : Store} {v : Value}
    (hnames : ∀ w n, s.Reaches v w → w.shownName? = some n → Text.IsBare n.chars) :
    Store.ellipsis <:+: v.chars s ↔
      ∃ r, s.Reaches v (.array r) ∧ (s.IsCyclic r ∨ s.LooksCut r) := by
  have hwritten : Form.display.Written s [] v (v.chars s) := written_display_iff.mpr rfl
  constructor
  · exact hwritten.exists_of_ellipsis (.nil s v) hnames
  · rintro ⟨r, hreaches, hcyclic | hlooks⟩
    · exact hwritten.ellipsis_infix_of_reaches hreaches fun _ hr =>
        hr.ellipsis_infix_of_isCyclic hcyclic
    · exact hwritten.ellipsis_infix_of_reaches hreaches fun _ hr =>
        hr.ellipsis_infix_of_looksCut hlooks

end StackScript
