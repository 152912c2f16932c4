import Appraisal.Text.Quoted

/-!
# Business categories

The business models that ideas are sorted into.  Weights and gates are set per category; `general`
stands in for every name that is not one of them.
-/

namespace Appraisal

/-- A business model. -/
inductive Category
  | saasB2B
  | saasB2C
  | physicalSubscription
  | dtcEcom
  | servicesMarketplace
  | freelanceMarketplace
  | learningMarketplace
  | regulatedServices
  | verticalComms
  | pmSoftware
  | general
  deriving DecidableEq, Repr, Inhabited

namespace Category

/-- All categories, in the order of the policy table. -/
def all : List Category :=
  [.saasB2B, .saasB2C, .physicalSubscription, .dtcEcom, .servicesMarketplace,
    .freelanceMarketplace, .learningMarketplace, .regulatedServices, .verticalComms, .pmSoftware,
    .general]

/-- The name of a category. -/
def name : Category → String
  | .saasB2B => "saas-b2b"
  | .saasB2C => "saas-b2c"
  | .physicalSubscription => "physical-subscription"
  | .dtcEcom => "dtc-ecom"
  | .servicesMarketplace => "services-marketplace"
  | .freelanceMarketplace => "freelance-marketplace"
  | .learningMarketplace => "learning-marketplace"
  | .regulatedServices => "regulated-services"
  | .verticalComms => "vertical-comms"
  | .pmSoftware => "pm-software"
  | .general => "general"

/-- Names with their categories. -/
def options : List (String × Category) :=
  all.map fun category => (category.name, category)

/-- The category with a name. -/
def ofName? (name : String) : Option Category :=
  options.lookup name

/-- The category whose policy applies to a name. -/
def ofName (name : String) : Category :=
  (ofName? name).getD .general

/-- What is said of a name that is no category's. -/
def unknownName (name : String) : String :=
  Text.quoted name ++ " is not a valid BusinessModelCategory"

theorem mem_all (category : Category) : category ∈ all := by
  cases category <;> decide

theorem ofName?_name (category : Category) : ofName? category.name = some category := by
  cases category <;> decide

end Category

end Appraisal
