import IssueTracker.Proofs.Service.Nesting
import IssueTracker.Proofs.Text.LowerCase

/-!
# Rows that contain what is looked for

Both a query and the text it is looked for in are taken in small letters, each as a whole. So a text
that contains a query literally matches it, but for one thing: a capital sigma has two small forms,
and which it has can depend on letters beyond an end of the query. Where it does not, the row is
among those that a list request finds, whatever the limit and the offset of the page are that is
shown of them.
-/

namespace IssueTracker

open Api Auth Http Store

namespace Listing

variable {listing : Listing} {text query : String}

/-- A text matches if the small form of the query stands in its small form. -/
theorem isMatch_iff :
    listing.isMatch text = true ↔
      LowerCase.lower listing.query.toList <:+: LowerCase.lower text.toList := by
  rw [isMatch, Bool.or_eq_true, LowerCase.occurs_iff_isInfix]
  constructor
  · rintro (empty | found)
    · rw [String.isEmpty_iff.mp empty]
      exact List.nil_infix
    · exact found
  · exact .inr

/-- Whether a text contains another, character for character, at a place where no capital sigma is
misjudged. -/
def Contains (text query : String) : Prop :=
  ∃ front back, text.toList = front ++ query.toList ++ back ∧
    ¬ LowerCase.Misjudged front query.toList back

/-- A text that contains the query matches it. -/
theorem isMatch_of_contains (contains : Contains text listing.query) :
    listing.isMatch text = true := by
  obtain ⟨front, back, stands, judged⟩ := contains
  rw [isMatch_iff, stands, ← LowerCase.occurs_iff_isInfix]
  exact LowerCase.occurs_lower judged

/-- A capital sigma by itself is not found where it ends a word. -/
theorem finalSigma_unmatched :
    ¬ ∀ (listing : Listing) (text : String),
      listing.query.toList <:+: text.toList → listing.isMatch text = true := by
  intro all
  have found := all ⟨"Σ", 100, 0⟩ "ΑΣ" ⟨['Α'], [], rfl⟩
  revert found
  decide +kernel

/-- What is shown of a page is a slice of what is shown of all rows that match. -/
theorem map_page {α : Type} (label : α → String) (shows : α → Json) (rows : List α) :
    (listing.page label rows).map shows =
      ((((rows.map fun row => (label row, shows row)).filter fun row =>
        listing.isMatch row.1).map (·.2)).drop listing.offset).take listing.limit := by
  simp [page, List.map_take, List.map_drop, List.filter_map, Function.comp_def]

end Listing

namespace Api.ListRequest

/-- The text to look for is the one that the query gives under its name. -/
theorem query_of_ofQuery {octets : Bytes} {listing : Listing} {text : Option String}
    (read : ofQuery octets = some listing) (given : valueOf "q" (Form.pairs octets) = some text) :
    listing.query = text.getD "" := by
  unfold ofQuery at read
  split at read
  · cases read
  · simp only [given, Option.bind_eq_bind, Option.bind_some, Option.bind_eq_some_iff] at read
    obtain ⟨limit, -, offset, -, made⟩ := read
    cases made
    rfl

end Api.ListRequest

namespace Store

/-- The list request that a call makes, if it makes one. -/
def Call.listing? {ο φ : Type} : Call ο φ → Option Listing
  | .list listing => some listing
  | _ => none

theorem Call.listing?_eq_some_iff {ο φ : Type} {call : Call ο φ} {listing : Listing} :
    call.listing? = some listing ↔ call = .list listing := by
  cases call <;> simp [listing?]

/-- The list request that a call on one of the stores makes. -/
def StoreCall.listing? : StoreCall → Option Listing
  | .customers call | .projects _ call => call.listing?
  | .issues _ call => call.listing?
  | .comments _ call => call.listing?

/-- The name under which the rows are shown. -/
def StoreCall.plural : StoreCall → String
  | .customers _ => "customers"
  | .projects _ _ => "projects"
  | .issues _ _ => "issues"
  | .comments _ _ => "comments"

namespace Stores

/-- The rows in the scope of a call as they are shown, each with the text that is looked at. -/
def searched (stores : Stores) : StoreCall → List (String × Json)
  | .customers _ => (stores.customers.owned ()).map fun row =>
    (row.fields.name, Presentation.customer row)
  | .projects customer _ => (stores.projects.owned customer).map fun row =>
    (row.fields.name, Presentation.project row)
  | .issues scope _ => (stores.issues.owned scope).map fun row =>
    (row.fields.subject, Presentation.issue row)
  | .comments scope _ => (stores.comments.owned scope).map fun row =>
    (row.fields, Presentation.comment row)

/-- The rows in the scope of a call that match, as they are shown, before a page is cut out. -/
def unpaged (stores : Stores) (call : StoreCall) (listing : Listing) : List Json :=
  ((stores.searched call).filter fun row => listing.isMatch row.1).map (·.2)

variable {stores after : Stores} {call : StoreCall} {listing : Listing} {shown : Shown}

/-- A list request gives no name and is about no row in particular. -/
theorem listing_unhindered (lists : call.listing? = some listing) :
    ¬ stores.Block call ∧ stores.HaveTarget call := by
  cases call <;> obtain rfl := Call.listing?_eq_some_iff.mp lists <;>
    simp [Block, Collection.Blocks, HaveTarget, Collection.Reaches, Call.target?]

/-- A list request that is fulfilled changes nothing and shows a page of the rows that match. -/
theorem Fulfil.shows_page (lists : call.listing? = some listing)
    (fulfilled : stores.Fulfil call after shown) :
    after = stores ∧ Presentation.shown shown =
      .json 200 (Json.ofMembers [(call.plural, Json.ofList
        (((stores.unpaged call listing).drop listing.offset).take listing.limit))]) := by
  cases call <;> obtain rfl := Call.listing?_eq_some_iff.mp lists <;>
    obtain ⟨rows, reply, ⟨rfl, rfl⟩, rfl, rfl⟩ := fulfilled <;>
      exact ⟨rfl, congrArg
        (fun items => Response.json 200 (Json.ofMembers [(_, Json.ofList items)]))
          (Listing.map_page _ _ _)⟩

end Stores

end Store

/-- A list request that is asked for is the one in the query. -/
theorem Api.Occasion.Asks.listing {occasion : Occasion} {operation : Operation} {call : StoreCall}
    {listing : Listing} (asks : occasion.Asks operation call)
    (lists : call.listing? = some listing) :
    ListRequest.ofQuery (Utf8.encode occasion.request.query) = some listing := by
  have read {given : Listing} (listed : occasion.listing = .ok given) :
      ListRequest.ofQuery (Utf8.encode occasion.request.query) = some given := by
    unfold Occasion.listing at listed
    split at listed
    · next found =>
      cases listed
      exact found
    · cases listed
  cases asks
  case listCustomers listed => exact Option.some.inj lists ▸ read listed
  case listProjects listed => exact Option.some.inj lists ▸ read listed
  case listIssues _ listed => exact Option.some.inj lists ▸ read listed
  case listComments _ _ listed => exact Option.some.inj lists ▸ read listed
  all_goals cases lists

namespace Service

variable {service : Service} {arrival : Arrival} {request : Request} {operation : Operation}
  {token : String} {payload : TokenPayload} {call : StoreCall} {listing : Listing} {stores : Stores}

/-- An authorised list request that is answered in time changes nothing and shows a page of the rows
that match. -/
theorem handle_of_listing (acceptance : Acceptance service arrival request operation token payload)
    (granted : ∃ scope ∈ splitScopes payload.scope, scope ∈ operation.required)
    (short : ¬ DeclaresTooMuch request) (timely : service.waited arrival token ≤ deadline)
    (asks : (service.occasionOf arrival request operation payload).Asks operation call)
    (lists : call.listing? = some listing) (lineage : stores.HaveLineage call) :
    (service.handle stores arrival request).stores = stores ∧
      (service.handle stores arrival request).response =
        service.complete arrival request (.answered (.json 200 (Json.ofMembers [(call.plural,
          Json.ofList (((stores.unpaged call listing).drop listing.offset).take
            listing.limit))]))) := by
  obtain ⟨free, there⟩ : ¬ stores.Block call ∧ stores.HaveTarget call :=
    Stores.listing_unhindered lists
  rw [handle_of_asks acceptance granted short asks timely]
  obtain ⟨shown, fulfilled, response, -⟩ := (answersExactly_run service arrival request stores call
    (service.receive arrival request).providerCalls).fulfilment free ⟨lineage, there⟩
  obtain ⟨same, page⟩ := fulfilled.shows_page lists
  exact ⟨same, by rw [response, page]⟩

/-- A literal occurrence of the query matches unless a capital sigma in it is misjudged; so it does
whatever stands around it if there is no capital sigma in the query. A list request that is
authorised, well-formed and answered in time shows a page of the rows that match; and all rows of
its scope are among these that contain, in their name, their subject or their content, what the
client gave as the text to look for. -/
theorem literal_found (service : Service) (stores : Stores) (listing : Listing) :
    (∀ text, Listing.Contains text listing.query → listing.isMatch text = true) ∧
    (∀ text : String, 'Σ' ∉ listing.query.toList → listing.query.toList <:+: text.toList →
      listing.isMatch text = true) ∧
    ∀ (arrival : Arrival) (request : Request) (operation : Operation) (token : String)
      (payload : TokenPayload) (call : StoreCall) (query : String),
      Acceptance service arrival request operation token payload →
      (∃ scope ∈ splitScopes payload.scope, scope ∈ operation.required) →
      ¬ DeclaresTooMuch request → service.waited arrival token ≤ deadline →
      (service.occasionOf arrival request operation payload).Asks operation call →
      call.listing? = some listing →
      ListRequest.valueOf "q" (Form.pairs (Utf8.encode request.query)) = some (some query) →
      stores.HaveLineage call →
      (service.handle stores arrival request).stores = stores ∧
        (service.handle stores arrival request).response =
          service.complete arrival request (.answered (.json 200 (Json.ofMembers [(call.plural,
            Json.ofList (((stores.unpaged call listing).drop listing.offset).take
              listing.limit))]))) ∧
        ∀ row ∈ stores.searched call,
          Listing.Contains row.1 query ∨ ('Σ' ∉ query.toList ∧ query.toList <:+: row.1.toList) →
            row.2 ∈ stores.unpaged call listing := by
  have always (text : String) (without : 'Σ' ∉ listing.query.toList)
      (literal : listing.query.toList <:+: text.toList) : Listing.Contains text listing.query := by
    obtain ⟨front, back, stands⟩ := literal
    exact ⟨front, back, stands.symm, fun misjudged => without misjudged.mem⟩
  refine ⟨fun _ => Listing.isMatch_of_contains, fun text without literal =>
    Listing.isMatch_of_contains (always text without literal), ?_⟩
  intro arrival request operation token payload call query acceptance granted short timely asks
    lists given lineage
  obtain rfl : listing.query = query := ListRequest.query_of_ofQuery (asks.listing lists) given
  obtain ⟨same, response⟩ := handle_of_listing acceptance granted short timely asks lists lineage
  refine ⟨same, response, ?_⟩
  intro row member literal
  have contains : Listing.Contains row.1 listing.query :=
    literal.elim id fun ⟨without, stands⟩ => always row.1 without stands
  exact List.mem_map_of_mem
    (List.mem_filter.mpr ⟨member, Listing.isMatch_of_contains contains⟩)

/-- A customer with a name of Greek capitals. -/
def greek : CustomerRow := ⟨numbered 1, (), (), ⟨"ΟΔΟΣ ΣΑ 2", "", []⟩, ⟨0, 0⟩, ⟨0, 0⟩⟩

/-- The stores with that customer and another. -/
def greeks : Stores where
  customers := [⟨numbered 2, (), (), ⟨"ΟΔΟΣ", "", []⟩, ⟨0, 0⟩, ⟨0, 0⟩⟩, greek]

/-- A reader looks for customers with a word of Greek capitals. -/
def wordSearch : Request where
  method := "GET"
  path := "/api/v1/customers"
  query := "q=%CE%A3%CE%91"
  headers := [.ofText "authorization" ("Bearer " ++ readerToken)]
  body := []

/-- The list request that it makes. -/
def wordListing : Listing := ⟨"ΣΑ", 100, 0⟩

/-- The customer is found whose name has the word between blanks. -/
theorem greek_found :
    wordListing.isMatch greek.fields.name = true ∧
      (trusting.handle greeks epoch wordSearch).stores = greeks ∧
        Presentation.customer greek ∈
          greeks.unpaged (.customers (.list wordListing)) wordListing := by
  have contains : Listing.Contains greek.fields.name wordListing.query := by
    refine ⟨"ΟΔΟΣ ".toList, " 2".toList, by decide, fun misjudged => ?_⟩
    have cased := misjudged.cased
    revert cased
    decide +kernel
  have acceptance : Acceptance trusting epoch wordSearch .listCustomers readerToken
      readerPayload :=
    ⟨by decide +kernel, by decide +kernel, by decide, readerToken_accepted.1⟩
  have granted : ∃ scope ∈ splitScopes readerPayload.scope,
      scope ∈ Operation.listCustomers.required := by
    decide +kernel
  have asks : (trusting.occasionOf epoch wordSearch .listCustomers readerPayload).Asks
      .listCustomers (.customers (.list wordListing)) :=
    .listCustomers (by decide +kernel)
  obtain ⟨matching, -, searching⟩ := literal_found trusting greeks wordListing
  obtain ⟨same, -, found⟩ := searching epoch wordSearch .listCustomers readerToken readerPayload _
    wordListing.query acceptance granted (by decide +kernel) readerToken_accepted.2 asks rfl
    (by decide +kernel) trivial
  have member : (greek.fields.name, Presentation.customer greek) ∈
      greeks.searched (.customers (.list wordListing)) := by
    simp [Stores.searched, Collection.owned, greeks]
  exact ⟨matching _ contains, same, found _ member (.inl contains)⟩

end Service

end IssueTracker
