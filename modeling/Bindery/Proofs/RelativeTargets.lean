import Bindery.Proofs.Hashes

/-!
# Targets seen from a directory

A target that begins with a scheme is written as it is. Every other target is taken apart at its
first hash: what stands before it is a path, named from the root or from the book, and is written as
a relative path from the directory of the document; the hash and what follows are put behind that
path as they are. The relative path leads back to the path that the target names.
-/

namespace Bindery

namespace Path

theorem ofString_text_linkFrom (directory : Path) {target : Path} (read : AreRead target.segments) :
    ofString (linkFrom directory target).text = linkFrom directory target :=
  ofString_text (areRead_linkFrom directory read)

end Path

namespace Target

/-! ## Addresses -/

/-- Does the target begin with a letter, more characters of a scheme, and a colon? -/
def HasScheme (target : String) : Prop :=
  ∃ first scheme rest, target.toList = first :: (scheme ++ ':' :: rest) ∧ first.isAlpha ∧
    ∀ c ∈ scheme, isSchemeChar c

theorem isAddress_iff {target : String} : isAddress target ↔ HasScheme target := by
  unfold isAddress HasScheme
  cases chars : target.toList with
  | nil => simp
  | cons first behind =>
      rw [Bool.and_eq_true, beq_iff_eq]
      constructor
      · rintro ⟨letter, colon⟩
        obtain ⟨rest, stop⟩ := List.head?_eq_some_iff.mp colon
        refine ⟨first, behind.takeWhile isSchemeChar, rest, ?_, letter, ?_⟩
        · rw [← stop, List.takeWhile_append_dropWhile]
        · exact fun c inside => List.mem_takeWhile_imp inside
      · rintro ⟨letter, scheme, rest, same, isLetter, inScheme⟩
        obtain ⟨rfl, rfl⟩ := List.cons.inj same
        refine ⟨isLetter, ?_⟩
        -- A colon is no character of a scheme, so that the first one ends it.
        rw [List.dropWhile_append_of_pos inScheme, List.dropWhile_cons_of_neg (by decide)]
        rfl

/-! ## Local targets -/

/-- A target by its path and by what stands behind the path. -/
theorem file_fragment_of_parts {p rest : String} (free : '#' ∉ p.toList)
    (opens : rest = "" ∨ ∃ fragment, rest = "#" ++ fragment) :
    file (p ++ rest) = p ∧ fragment (p ++ rest) = rest := by
  rcases opens with rfl | ⟨name, rfl⟩
  · rw [String.append_empty]
    exact ⟨file_of_free free, fragment_of_free free⟩
  · have hash : ("#" ++ name).toList = '#' :: name.toList := by simp
    exact file_append free hash

theorem seenFrom_of_local {target : String} (named : isAddress target = false)
    (book directory : Path) :
    seenFrom book directory target =
      (Path.linkFrom directory (book / file target)).text ++ fragment target := by
  rw [seenFrom, named, if_neg Bool.false_ne_true]

/-- The path that is written for a target is relative, and from the directory it leads to the path
that the target names. -/
theorem leads_linkFrom_div (directory : Path) {book : Path} (read : Path.AreRead book.segments)
    (p : String) :
    let link := Path.linkFrom directory (book / p)
    (Path.ofString link.text).isAbsolute = false ∧
      Path.settle (directory / link.text).segments = Path.settle (book / p).segments := by
  intro link
  have back : Path.ofString link.text = link :=
    Path.ofString_text_linkFrom _ (read.join (Path.areRead_ofString p))
  constructor
  · rw [back]
    rfl
  · show Path.settle (directory.join (Path.ofString link.text)).segments = _
    rw [back, Path.join_of_relative _ rfl]
    exact Path.settle_linkFrom _ _

/-- A local target of a path `p` without a hash, and of a hash with anything behind it if there is
one. Whatever the directories of the book and of the document are, dots and double dots included,
the target is written as a relative path with the same hash and text behind it. From the directory
of the document the path leads to `p` if that is absolute, and to `p` taken from the book if not. -/
theorem seenFrom_leads_back_to_file {p rest : String} (free : '#' ∉ p.toList)
    (opens : rest = "" ∨ ∃ fragment, rest = "#" ++ fragment)
    (named : ¬ HasScheme (p ++ rest)) (book base : String) :
    ∃ link : String,
      seenFrom (Path.ofString book) (Path.ofString base) (p ++ rest) = link ++ rest ∧
        (Path.ofString link).isAbsolute = false ∧
        Path.settle (Path.ofString base / link).segments =
          Path.settle (if (Path.ofString p).isAbsolute then (Path.ofString p).segments
            else (Path.ofString book).segments ++ (Path.ofString p).segments) := by
  obtain ⟨path, behind⟩ := file_fragment_of_parts free opens
  have localTarget : isAddress (p ++ rest) = false :=
    Bool.eq_false_iff.mpr fun address => named (isAddress_iff.mp address)
  obtain ⟨relative, leads⟩ :=
    leads_linkFrom_div (Path.ofString base) (Path.areRead_ofString book) p
  refine ⟨_, ?_, relative, leads.trans ?_⟩
  · rw [seenFrom_of_local localTarget, path, behind]
  · exact congrArg Path.settle (Path.segments_join _ _)

/-- A target above the book, from a directory that is written with dots. -/
theorem notes_above_book_lead_back :
    seenFrom (Path.ofString "/a/./d") (Path.ofString "//a/b/../c") "../../../e/f.md#g#h" =
        "../../e/f.md#g#h" ∧
      ∃ link : String, link ++ "#g#h" = "../../e/f.md#g#h" ∧
        (Path.ofString link).isAbsolute = false ∧
        Path.settle (Path.ofString "//a/b/../c" / link).segments = ["e", "f.md"] := by
  have free : '#' ∉ "../../../e/f.md".toList := by decide
  have named : ¬ HasScheme ("../../../e/f.md" ++ "#g#h") := by
    rw [← isAddress_iff]
    decide +kernel
  have written : seenFrom (Path.ofString "/a/./d") (Path.ofString "//a/b/../c")
      "../../../e/f.md#g#h" = "../../e/f.md#g#h" := by decide +kernel
  obtain ⟨link, shown, relative, leads⟩ :=
    seenFrom_leads_back_to_file free (.inr ⟨"g#h", rfl⟩) named "/a/./d" "//a/b/../c"
  refine ⟨written, link, shown.symm.trans written, relative, leads.trans ?_⟩
  decide +kernel

end Target

end Bindery
