import IndexSearch.Files.CommonTypes
import IndexSearch.Proofs.Console.Transcript
import IndexSearch.Proofs.Text.Decimal
import IndexSearch.Proofs.Text.Words
import IndexSearch.Proofs.Url.Form
import IndexSearch.Proofs.Url.Reference
import IndexSearch.Site.Answer

/-!
# Searching through a form

The search page and the console run the same search. A text that a form sends arrives as it was,
however the form wrote it, and the page makes the same words of it as the console makes of a line
with that text, although it trims the text first. What the page lists is what the console prints,
and the page says that nothing was found where the console says so or says nothing.
-/

namespace IndexSearch

/-- What a form writes passes through the query of a reference unchanged. -/
theorem Form.kept_of_spells {bytes : Bytes} {written : Text}
    (h : alphabet.Spells bytes written) :
    ∀ c ∈ written, Target.isEdge c = false ∧ c ≠ '#' ∧ Percent.inQuerySet c = false :=
  h.forall_mem (by decide +kernel)

namespace Console

end Console

namespace Page

end Page

namespace Site

/-- The page runs the search of the console, and of nothing if that has no words. -/
theorem hits_eq {site : Site} {text : Text} {hits : List Hit}
    (found : searchWords text = [] ∧ hits = [] ∨
      site.engine.search (searchWords text) = .ok hits) : site.hits text = hits := by
  have hwords : (shownTerms text).words = searchWords text := searchWords_trim text
  rw [Site.hits, hitsBy, hwords]
  rcases found with ⟨hwordless, rfl⟩ | hfound
  · simp [hwordless]
  · have hasked : searchWords text ≠ [] := by
      intro hwordless
      rw [hwordless] at hfound
      cases hfound
    simp [hasked, hfound]

end Site

end IndexSearch
