import Appraisal.Policy.Category
import Appraisal.Text.Character

/-!
# Validation frameworks

A few coarse descriptors of an idea decide its category and which validation frameworks apply to
it.  Each framework brings checks, figures to watch and a hint at the time it takes.
-/

namespace Appraisal

/-- A body of checks for a kind of business. -/
inductive Framework
  | saasSubscription
  | twoSidedMarketplace
  | complianceHeavy
  | dtcPhysicalEconomics
  | general
  deriving DecidableEq, Repr, Inhabited

/-- The name of a framework. -/
def Framework.name : Framework → String
  | .saasSubscription => "saas-subscription"
  | .twoSidedMarketplace => "two-sided-marketplace"
  | .complianceHeavy => "compliance-heavy"
  | .dtcPhysicalEconomics => "dtc-physical-economics"
  | .general => "general"

/-- Names with their frameworks. -/
def Framework.options : List (String × Framework) :=
  [.saasSubscription, .twoSidedMarketplace, .complianceHeavy, .dtcPhysicalEconomics,
    .general].map fun framework => (framework.name, framework)

/-- Who trades with whom. -/
inductive BusinessType
  | b2b
  | b2c
  | marketplace
  | dtc
  | other
  deriving DecidableEq, Repr, Inhabited

/-- How revenue is made. -/
inductive RevenueModel
  | simple
  | tiered
  | usage
  | hybrid
  | other
  deriving DecidableEq, Repr, Inhabited

/-- Who pays. -/
inductive Customer
  | consumer
  | prosumer
  | smb
  | midmarket
  | enterprise
  | twoSided
  | other
  deriving DecidableEq, Repr, Inhabited

/-- What is operated. -/
inductive Operation
  | digital
  | physical
  | hybrid
  | other
  deriving DecidableEq, Repr, Inhabited

/-- The coarse descriptors of an idea. -/
structure Profile where
  /-- Who trades with whom. -/
  business : BusinessType
  industry : String := "General"
  /-- How revenue is made. -/
  revenue : RevenueModel := .simple
  /-- Who pays. -/
  customer : Customer := .smb
  /-- What is operated. -/
  operation : Operation := .digital
  deriving DecidableEq, Repr, Inhabited

/-- Words that mark a regulated industry, wherever they stand in its description. -/
def regulatedWords : List String :=
  ["health", "medical", "pharma", "fintech", "finance", "legal", "insurance"]

/-- Whether an industry is regulated. -/
def isRegulated (industry : String) : Bool :=
  regulatedWords.any fun word => Text.mentions (Text.lowerCase industry) word

/-- The category of an idea with the frameworks that apply to it. -/
structure Activation where
  category : Category
  /-- The frameworks, in the order in which they were found to apply. -/
  frameworks : List Framework
  /-- What led to them. -/
  notes : List String
  deriving DecidableEq, Repr, Inhabited

namespace Activation

/-- What the type of the business alone activates. -/
def ofBusiness (profile : Profile) : Activation :=
  match profile.business with
  | .marketplace => ⟨.servicesMarketplace, [.twoSidedMarketplace], ["marketplace-detected"]⟩
  | .dtc =>
      ⟨if profile.operation = .digital then .dtcEcom else .physicalSubscription,
        [.dtcPhysicalEconomics], ["dtc-detected"]⟩
  | .b2b => ⟨.saasB2B, [.saasSubscription], ["b2b-saas-detected"]⟩
  | .b2c => ⟨.saasB2C, [.saasSubscription], ["b2c-saas-detected"]⟩
  | .other => ⟨.general, [], []⟩

/-- Apply one more framework, which gives a category to an idea that has none yet. -/
def add (framework : Framework) (category : Category) (notes : List String)
    (activation : Activation) : Activation where
  category := if activation.category = .general then category else activation.category
  frameworks := activation.frameworks ++ [framework]
  notes := activation.notes ++ notes

/-- What a regulated industry adds. -/
def withRegulation (profile : Profile) (activation : Activation) : Activation :=
  if isRegulated profile.industry then
    activation.add .complianceHeavy .regulatedServices ["regulated-industry"]
  else activation

/-- What customers on two sides add. -/
def withTwoSides (profile : Profile) (activation : Activation) : Activation :=
  if profile.customer = .twoSided ∧ .twoSidedMarketplace ∉ activation.frameworks then
    activation.add .twoSidedMarketplace .servicesMarketplace ["two-sided-customer"]
  else activation

/-- What operations that are not all digital add; they leave the category alone. -/
def withOperations (profile : Profile) (activation : Activation) : Activation :=
  if profile.operation ≠ .digital ∧ .dtcPhysicalEconomics ∉ activation.frameworks then
    activation.add .dtcPhysicalEconomics activation.category []
  else activation

/-- An idea to which nothing applies gets the general framework. -/
def orGeneral (activation : Activation) : Activation :=
  if activation.frameworks.isEmpty then { activation with frameworks := [.general] }
  else activation

/-- The frameworks that apply to an idea. -/
def ofProfile (profile : Profile) : Activation :=
  (((ofBusiness profile).withRegulation profile).withTwoSides profile).withOperations profile
    |>.orGeneral

end Activation

/-- What a framework asks of an idea. -/
structure Criteria where
  /-- What to look at. -/
  checks : List String
  /-- Figures to watch, with their targets. -/
  figures : Option (List (String × String))
  timeline : Option String
  deriving DecidableEq, Repr, Inhabited

namespace Criteria

/-- The criteria of a framework; the general one has none of its own. -/
def ofFramework? : Framework → Option Criteria
  | .saasSubscription => some
      { checks :=
          ["Recurring revenue metrics (MRR/ARR), logo/net revenue retention, churn cohort analysis",
            "Integration readiness (SSO/SAML, SCIM, key partner apps)",
            "Security posture (SOC2/ISO27001 or roadmap); data residency controls",
            "Scalability under load: p95 latency within SLO; DR runbooks"]
        figures := some
          [("pilot_conversion", ">= 30-50% with executive sponsor"),
            ("nrr", ">= 100% for healthy SMB+; cohort trends improving")]
        timeline := some "6-12 months multi-stakeholder evaluations" }
  | .twoSidedMarketplace => some
      { checks :=
          ["Supply-demand balance and time-to-liquidity in seed markets",
            "Trust and disintermediation controls; repeat transaction rate",
            "Funnel: visitor to lead, signup to first transaction, 7/30-day retention"]
        figures := some
          [("cac", "$30-$150 depending on price point and channel"),
            ("v2l", "1-3% typical for B2B-style funnels; adjust for B2C"),
            ("l2o", "10-15% for B2B-style funnels")]
        timeline := some "Rapid cycles (days to weeks) with local testbeds" }
  | .complianceHeavy => some
      { checks :=
          ["Regulatory pathway assessment (licensing, filings, oversight)",
            "AML/KYC/Transaction monitoring controls; auditability",
            "Stress scenarios and incident response runbooks"]
        figures := some
          [("kyc_pass", ">= 85-95% geo-dependent; low false negatives"),
            ("fraud_loss_bps", "< 30-50 bps (product-dependent)"),
            ("reliability", "p99 failure rate within SLO; reconciliation >= 99.9%")]
        timeline := some "Staged rollout: sandbox, supervised scale, general" }
  | .dtcPhysicalEconomics => some
      { checks :=
          ["Unit economics: COGS + shipping + fulfillment; gross margin %",
            "CAC payback months and LTV:CAC ratio; cohort retention",
            "Seasonality and inventory turns; pause/skip features"]
        figures := some
          [("gross_margin", "Target >= 40-60% depending on category"),
            ("payback", "<= 12 months preferred; show p50/p90 bands"),
            ("ltv_cac", ">= 3:1 sustainable at scaled CAC")]
        timeline := some "Fast iteration with box/cohort experiments" }
  | .general => none

/-- The criteria of an idea to which no framework applies. -/
def general : Criteria :=
  { checks := ["General fit/demand/economics gates"], figures := none, timeline := some "Varies" }

/-- The criteria of the frameworks in their order, or the general ones if they have none. -/
def ofFrameworks (frameworks : List Framework) : List Criteria :=
  let found := frameworks.filterMap ofFramework?
  if found.isEmpty then [general] else found

end Criteria

end Appraisal
