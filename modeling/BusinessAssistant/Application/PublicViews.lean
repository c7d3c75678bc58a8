/-
# What customers are shown of a business

The values the queries hand to the presentation: the profile, the opening hours,
the catalogue and the answers found in the knowledge base, with the fields that
pages show. Texts are in the locale of the customer by then.
-/

import BusinessAssistant.Domain.Identifiers
import BusinessAssistant.Domain.Text

namespace BusinessAssistant.Application

open BusinessAssistant.Domain

/-! ## Opening hours -/

structure HoursIntervalDTO where
  startLocal : Text
  endLocal : Text

structure BusinessDayDTO where
  dayLabel : Text
  closed : Bool
  intervals : List HoursIntervalDTO

structure BusinessStatusDTO where
  openNow : Bool
  localTime : Text
  timezone : Text

structure NextOpeningDTO where
  nextOpeningLocal : Option Text

/-! ## The profile and the catalogue -/

structure TenantPublicProfileDTO where
  name : Text
  description : Text
  timezone : Text
  publicPhone : Option Text
  publicEmail : Option Text
  address : Option Text
  status : BusinessStatusDTO

/-- A category, whose id the source keeps as its text. -/
structure ServiceCategoryDTO where
  id : UUID
  name : Text

structure PublicPriceDTO where
  display : Option Text

@[inherit_doc ServiceCategoryDTO]
structure ServiceDTO where
  id : UUID
  name : Text
  description : Text
  durationDisplay : Text
  price : PublicPriceDTO
  preparationNotes : Option Text
  eligibilityNotes : Option Text
  bookable : Bool

/-! ## Knowledge -/

structure RetrievedKnowledgeChunk where
  title : Text
  sectionTitle : Option Text

structure KnowledgeEvidence where
  chunk : RetrievedKnowledgeChunk

structure KnowledgeAnswer where
  answered : Bool
  text : Text
  evidence : List KnowledgeEvidence

end BusinessAssistant.Application
