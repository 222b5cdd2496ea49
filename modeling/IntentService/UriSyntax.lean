import IntentService.Uri

/-! # Where a URI is split

`Uri::parse` means the generic syntax, but its bracket expressions escape the
slash: in the extended grammar that makes the backslash one more delimiter of
schemes and authorities.
-/

namespace IntentService.UriSyntax

open GenericUri

/-- Parsing succeeds and gives the components of the generic syntax. -/
def FollowsSyntax (str : String) : Prop :=
  ∀ self : Uri, (self.parse str).1 = true ∧
    (self.parse str).2.scheme.toList = (split [] str.toList).scheme ∧
    (self.parse str).2.host.toList = (split [] str.toList).host ∧
    (self.parse str).2.path.toList = (split [] str.toList).path ∧
    (self.parse str).2.query.toList = (split [] str.toList).query ∧
    (self.parse str).2.fragment.toList = (split [] str.toList).fragment

theorem followsSyntax_iff_split {str : String} (noNul : '\x00' ∉ str.toList) :
    FollowsSyntax str ↔ split ['\\'] str.toList = split [] str.toList := by
  simp only [FollowsSyntax, Uri.parse_eq_split _ _ noNul, String.toList_ofList, true_and]
  rw [← GenericUri.Parts.mk.injEq]
  exact ⟨fun all => all {}, fun same _ => same⟩

/-- A text is split as the generic syntax says exactly if neither the scheme nor
    the authority it has there contains a backslash. -/
theorem follows_syntax_iff (str : String) (noNul : '\x00' ∉ str.toList) :
    FollowsSyntax str ↔
      '\\' ∉ (split [] str.toList).scheme ∧ '\\' ∉ (split [] str.toList).host := by
  rw [followsSyntax_iff_split noNul, split_eq_iff]
  have absent : ∀ text : List Char, (∀ c ∈ text, c ∉ ['\\']) ↔ '\\' ∉ text := by
    intro text
    simp only [List.mem_singleton]
    exact ⟨fun clean member => clean _ member rfl, fun clean c member same => clean (same ▸ member)⟩
  rw [absent, absent]

theorem plain_url_follows : FollowsSyntax "http://youtube.com/watch?v=1#t" :=
  (follows_syntax_iff "http://youtube.com/watch?v=1#t" (by decide)).mpr (by decide)

/-- The authority ends in front of the backslash. -/
theorem backslash_ends_authority : ¬ FollowsSyntax "http://a\\b/c" := by
  intro follows
  have host := (follows {}).2.2.1
  exact absurd host (by decide)

end IntentService.UriSyntax
