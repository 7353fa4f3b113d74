import Mathlib.Data.List.Forall2
import LineSift.Proofs.Text.Lines
import LineSift.Rules.Header

/-!
# Headers as they are written

The grammar of headers, apart from any reader.  Items are spelled as a sequence of tokens
(`Spells`), and tokens are laid out with gaps between them (`Laid`): any mix of spaces, line feeds
and comments that a line feed ends.  Only the keyword needs a gap behind it.  A text that lays out
the tokens of some items is a way of writing them (`Writes`), and replacing its tabs gives another
(`Laid.expandTabs`), because outside of comments there are none.
-/

namespace LineSift

namespace Header

open Text (expandTabsFrom)

/-! ## Values -/

/-- The body of a string in which a backslash protects what follows: other code points than the
quote and the backslash, and pairs of a backslash and any code point. -/
inductive PairedBody (quote : CodePoint) : Text → Prop
  | nil : PairedBody quote []
  | plain {c : CodePoint} {b : Text} :
      c ≠ quote → c ≠ .char '\\' → PairedBody quote b → PairedBody quote (c :: b)
  | pair {c : CodePoint} {b : Text} :
      PairedBody quote b → PairedBody quote (.char '\\' :: c :: b)

/-- The body of a single-quoted string: every quote in it stands behind a backslash, and no
backslash stands at its end. -/
structure SingleBody (b : Text) : Prop where
  behind_backslash : ∀ before behind, b = before ++ .char '\'' :: behind →
    before.getLast? = some (.char '\\')
  getLast?_ne : b.getLast? ≠ some (.char '\\')

/-- The three ways to write a string. -/
inductive Quoted : Text → Prop
  | double {b : Text} : PairedBody (.char '"') b → Quoted (.char '"' :: (b ++ [.char '"']))
  | single {b : Text} : SingleBody b → Quoted (.char '\'' :: (b ++ [.char '\'']))
  | raw {b : Text} : .char '`' ∉ b → Quoted (.char '`' :: (b ++ [.char '`']))

/-- The strings of a list with commas between them; `gap` says what can stand around the commas. -/
inductive Elements (gap : Text → Prop) : List Text → Text → Prop
  | last {s g : Text} : gap g → Elements gap [s] (s ++ g)
  | more {s g g' t : Text} {ss : List Text} : gap g → gap g' → Elements gap ss t →
      Elements gap (s :: ss) (s ++ (g ++ .char ',' :: (g' ++ t)))

/-- A list of strings in brackets; `gap` says what can stand around the brackets and commas. -/
inductive Bracketed (gap : Text → Prop) : List Text → Text → Prop
  | empty {g : Text} : gap g → Bracketed gap [] (.char '[' :: (g ++ [.char ']']))
  | elements {g t : Text} {ss : List Text} : gap g → Elements gap ss t →
      Bracketed gap ss (.char '[' :: (g ++ (t ++ [.char ']'])))

/-- A text of spaces alone. -/
def Spaces (t : Text) : Prop := ∀ c ∈ t, c = .char ' '

/-- A value: a string, or a list of strings with spaces around its commas. -/
inductive IsValue : Text → Prop
  | string {s : Text} : Quoted s → IsValue s
  | list {ss : List Text} {t : Text} : (∀ s ∈ ss, Quoted s) → Bracketed Spaces ss t → IsValue t

/-- Whether a text is on one line and has no tabs. -/
def Inline (t : Text) : Prop := .char '\t' ∉ t ∧ .char '\n' ∉ t ∧ .char '\r' ∉ t

/-! ## Tokens and their layout -/

/-- The keyword that a field begins with, in letters of either case. -/
def IsKeyword (w : Text) : Prop :=
  List.Forall₂ (fun c l => c = .char l ∨ c = .char l.toUpper) w ['f', 'i', 'e', 'l', 'd']

/-- A name: one code point or more, each of them a letter, a digit, a hyphen or an underscore. -/
def IsName (n : Text) : Prop := n ≠ [] ∧ ∀ c ∈ n, isNamePart c

/-- The units of a header between which there can be gaps. -/
inductive Token where
  | keyword (w : Text)
  | name (n : Text)
  | symbol (c : Char)
  | value (v : Text)

namespace Token

def text : Token → Text
  | keyword w => w
  | name n => n
  | symbol c => [.char c]
  | value v => v

/-- Whether a token is well-formed. -/
def Valid : Token → Prop
  | keyword w => IsKeyword w
  | name n => IsName n
  | symbol c => c ∈ ['=', '\x7b', '\x7d']
  | value v => IsValue v ∧ Inline v

def isKeyword : Token → Bool
  | keyword _ => true
  | _ => false

end Token

/-- What can stand between two tokens: spaces, line feeds and comments, each comment with the line
feed that ends it. -/
inductive Gap : Text → Prop
  | nil : Gap []
  | space {g : Text} : Gap g → Gap (.char ' ' :: g)
  | lineFeed {g : Text} : Gap g → Gap (.char '\n' :: g)
  | comment {c g : Text} : .char '\n' ∉ c → Gap g → Gap (.char '#' :: (c ++ .char '\n' :: g))

/-- Tokens laid out with gaps around them.  The gap behind a keyword is not empty. -/
inductive Laid : List Token → Text → Prop
  | nil {g : Text} : Gap g → Laid [] g
  | cons {tok : Token} {ts : List Token} {g g' t : Text} :
      Gap g → Gap g' → (tok.isKeyword = true → g' ≠ []) → Laid ts t →
      Laid (tok :: ts) (g ++ (tok.text ++ (g' ++ t)))

/-- The tokens of `name = value`. -/
def assignment (a : Text × Text) : List Token := [.name a.1, .symbol '=', .value a.2]

/-- The tokens of a sequence of items. -/
inductive Spells : List Item → List Token → Prop
  | nil : Spells [] []
  | option {key value : Text} {is : List Item} {ts : List Token} :
      Spells is ts → Spells (.option key value :: is) (assignment (key, value) ++ ts)
  | field {w name : Text} {attributes : List (Text × Text)} {is : List Item} {ts : List Token} :
      Spells is ts → Spells (.field name attributes :: is)
        (.keyword w :: .name name :: .symbol '\x7b' ::
          (attributes.flatMap assignment ++ .symbol '\x7d' :: ts))

/-- A way of writing a sequence of items as a header. -/
def Writes (is : List Item) (t : Text) : Prop :=
  ∃ ts, Spells is ts ∧ (∀ tok ∈ ts, tok.Valid) ∧ Laid ts t

theorem Bracketed.exists_body {gap : Text → Prop} {ss : List Text} {v : Text}
    (h : Bracketed gap ss v) : ∃ b, v = .char '[' :: (b ++ [.char ']']) := by
  cases h with
  | empty _ => exact ⟨_, rfl⟩
  | elements _ _ => exact ⟨_, by rw [List.append_assoc]⟩

/-! ## Gaps -/

theorem Gap.append {g g' : Text} (h : Gap g) (h' : Gap g') : Gap (g ++ g') := by
  induction h with
  | nil => exact h'
  | space _ ih => exact .space ih
  | lineFeed _ ih => exact .lineFeed ih
  | @comment c g hc _ ih =>
    rw [List.cons_append, List.append_assoc, List.cons_append]
    exact .comment hc ih

/-- Only behind the keyword there has to be something. -/
theorem Laid.other {tok : Token} {ts : List Token} {g g' t : Text} (hg : Gap g) (hg' : Gap g')
    (htok : tok.isKeyword = false) (h : Laid ts t) :
    Laid (tok :: ts) (g ++ (tok.text ++ (g' ++ t))) :=
  .cons hg hg' (fun hk => absurd hk (Bool.eq_false_iff.mp htok)) h

/-- A gap in front of what is laid out is one more gap. -/
theorem Laid.gap_append {ts : List Token} {g t : Text} (hg : Gap g) (h : Laid ts t) :
    Laid ts (g ++ t) := by
  cases h with
  | nil h => exact .nil (hg.append h)
  | cons h h' hk ht =>
    rw [← List.append_assoc]
    exact .cons (hg.append h) h' hk ht

/-! ## Tabs -/

/-- Tabs stand in comments alone, where they do not matter. -/
theorem Gap.expandTabs {g : Text} (h : Gap g) (col : Nat) : Gap (expandTabsFrom col g) := by
  induction h generalizing col with
  | nil => exact .nil
  | space _ ih => exact .space (ih _)
  | lineFeed _ ih => exact .lineFeed (ih _)
  | @comment c g hc _ ih =>
    obtain ⟨col', h⟩ := Text.expandTabsFrom_append (col + 1) c
    rw [Text.expandTabsFrom_cons_of_ne col _ (by decide) (by decide) (by decide), h]
    exact .comment (fun hn => hc (Text.mem_of_mem_expandTabsFrom hn (by decide))) (ih _)

theorem isKeyword_field : IsKeyword (Text.ofString "field") :=
  .cons (.inl rfl) (.cons (.inl rfl) (.cons (.inl rfl) (.cons (.inl rfl) (.cons (.inl rfl) .nil))))

theorem IsKeyword.length_eq {w : Text} (h : IsKeyword w) : w.length = 5 :=
  List.Forall₂.length_eq h

theorem IsKeyword.all_nameParts {w : Text} (h : IsKeyword w) : ∀ c ∈ w, isNamePart c := by
  have hl : ∀ l ∈ ['f', 'i', 'e', 'l', 'd'],
      isNamePart (.char l) ∧ isNamePart (.char l.toUpper) := by
    -- One letter at a time: the characters are a finite type, which is not to be searched.
    simp only [List.forall_mem_cons, List.not_mem_nil, false_implies, implies_true, and_true]
    decide
  rw [IsKeyword] at h
  generalize ['f', 'i', 'e', 'l', 'd'] = letters at h hl
  induction h with
  | nil => exact List.forall_mem_nil _
  | @cons c l w letters hc _ ih =>
    have hl' := hl l List.mem_cons_self
    refine List.forall_mem_cons.mpr ⟨?_, ih fun l' h' => hl l' (List.mem_cons_of_mem _ h')⟩
    rcases hc with rfl | rfl
    · exact hl'.1
    · exact hl'.2

namespace Token

theorem Valid.text_ne_nil {tok : Token} (h : tok.Valid) : tok.text ≠ [] := by
  cases tok with
  | keyword w => exact List.ne_nil_of_length_pos (h.length_eq ▸ Nat.succ_pos 4)
  | name n => exact h.1
  | symbol c => exact List.cons_ne_nil _ _
  | value v =>
    obtain ⟨h, -⟩ := h
    cases h with
    | string h => cases h <;> exact List.cons_ne_nil _ _
    | list _ h => cases h <;> exact List.cons_ne_nil _ _

theorem Valid.tab_not_mem {tok : Token} (h : tok.Valid) : .char '\t' ∉ tok.text := by
  intro ht
  cases tok with
  | keyword w => exact absurd (h.all_nameParts _ ht) (by decide)
  | name n => exact absurd (h.2 _ ht) (by decide)
  | symbol c =>
    obtain rfl : '\t' = c := by simpa [text] using ht
    simp [Valid] at h
  | value v => exact h.2.1 ht

end Token

/-- Replacing the tabs of a layout gives another layout of the same tokens. -/
theorem Laid.expandTabs {ts : List Token} {t : Text} (h : Laid ts t) (hv : ∀ tok ∈ ts, tok.Valid)
    (col : Nat) : Laid ts (expandTabsFrom col t) := by
  induction h generalizing col with
  | nil hg => exact .nil (hg.expandTabs col)
  | @cons tok ts g g' t hg hg' hk _ ih =>
    have htok := hv tok List.mem_cons_self
    obtain ⟨col₁, h₁⟩ := Text.expandTabsFrom_append col g
    obtain ⟨col₂, h₂⟩ := Text.expandTabsFrom_append col₁ tok.text
    obtain ⟨col₃, h₃⟩ := Text.expandTabsFrom_append col₂ g'
    rw [h₁, h₂, h₃, Text.expandTabsFrom_of_not_mem _ htok.tab_not_mem]
    refine .cons (hg.expandTabs col) (hg'.expandTabs col₂) (fun hw => ?_)
      (ih (fun tok' h' => hv tok' (List.mem_cons_of_mem _ h')) col₃)
    exact Text.expandTabsFrom_ne_nil _ (hk hw)

theorem Laid.length_le {ts : List Token} {t : Text} (h : Laid ts t) (hv : ∀ tok ∈ ts, tok.Valid) :
    ts.length ≤ t.length := by
  induction h with
  | nil => exact Nat.zero_le _
  | @cons tok ts g g' t _ _ _ _ ih =>
    have htok := List.length_pos_of_ne_nil (hv tok List.mem_cons_self).text_ne_nil
    have hts := ih fun tok' h' => hv tok' (List.mem_cons_of_mem _ h')
    simp only [List.length_cons, List.length_append]
    omega

end Header

end LineSift
