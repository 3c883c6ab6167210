import Mathlib.Data.List.Basic

/-!
# A stream that is read piece by piece

A position says what comes next on a stream: `piece p bs xs q` that `bs` may, that the stream is
at `q` behind it, and that `xs` was announced by it. `Path` puts pieces together. A reader that
knows how long the next piece is cuts the stream where the writer has put it together.
-/
namespace Pieces
variable {σ β ι : Type*} {piece : σ → List β → List ι → σ → Prop}

inductive Path (piece : σ → List β → List ι → σ → Prop) : σ → List β → List ι → σ → Prop
  | nil (p : σ) : Path piece p [] [] p
  | cons {p q r : σ} {bs cs : List β} {xs ys : List ι} (first : piece p bs xs q)
      (rest : Path piece q cs ys r) : Path piece p (bs ++ cs) (xs ++ ys) r

variable {p q r : σ} {bs cs : List β} {xs ys : List ι}

theorem Path.single (only : piece p bs xs q) : Path piece p bs xs q := by
  have path := Path.cons only (.nil q)
  rwa [List.append_nil, List.append_nil] at path

theorem Path.append (first : Path piece p bs xs q) (second : Path piece q cs ys r) :
    Path piece p (bs ++ cs) (xs ++ ys) r := by
  induction first with
  | nil p => exact second
  | cons here rest ih =>
    rw [List.append_assoc, List.append_assoc]
    exact .cons here (ih second)

/-- The writer adds a piece. -/
theorem Path.snoc (path : Path piece p bs xs q) (last : piece q cs ys r) :
    Path piece p (bs ++ cs) (xs ++ ys) r := path.append (.single last)

/-- The reader takes one: all pieces that may come next are as long as what it took. -/
theorem Path.uncons (path : Path piece p (bs ++ cs) xs r) (nonempty : bs ≠ [])
    (sized : ∀ ds ys q, piece p ds ys q → ds.length = bs.length) :
    ∃ ys zs q, piece p bs ys q ∧ Path piece q cs zs r ∧ xs = ys ++ zs := by
  obtain ⟨all, whole⟩ : ∃ all, bs ++ cs = all := ⟨_, rfl⟩
  rw [whole] at path
  cases path with
  | nil => exact absurd (List.append_eq_nil_iff.mp whole).1 nonempty
  | cons first rest =>
    obtain ⟨rfl, rfl⟩ := List.append_inj whole (sized _ _ _ first).symm
    exact ⟨_, _, _, first, rest, rfl⟩

end Pieces
