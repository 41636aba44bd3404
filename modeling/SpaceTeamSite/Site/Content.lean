import SpaceTeamSite.I18n.TextKey

/-!
# The page's fixed content

Everything on the page that is not a translatable text: addresses, image paths, the
metrics band, the departments, the sponsor tiers and the contact links. Texts are
named by their keys and looked up in the reader's language when the page is drawn.
-/

namespace SpaceTeamSite.Site

/-- The team's e-mail address. -/
def contactEmail : String := "tayf.takimi@itu.edu.tr"

def linkedInUrl : String := "https://www.linkedin.com/company/i%CC%87t%C3%BC-tayf/"
def instagramUrl : String := "https://instagram.com/itu.tayf"
def brochurePath : String := "./ITU_Tayf_Tanitim_Dosyasi.pdf"
def logoPath : String := "/images/LogoWhite.png"
def heroImagePath : String := "/images/iss033e009282~orig-min.jpg"
def modelEmbedUrl : String :=
  "https://sketchfab.com/models/9a7ad3344edb4e598de848a5badb7416/embed?ui_theme=dark"
def modelTitle : String := "Communication Satellite (Sketchfab)"

/-- The design review score on the project badge, out of 100, as written. -/
def drScore : String := "96.5"

/-- The navigation links: anchor and label. -/
def navLinks : List (String × TextKey) :=
  [("project", .navProject), ("team", .navTeam), ("sponsor", .navSponsor), ("join", .navJoin),
   ("contact", .navContact)]

/-- One counter of the metrics band. -/
structure Metric where
  value : Nat
  label : TextKey
  suffix : String
  /-- Written in compact notation, like `1,8 Mn`. -/
  compact : Bool

/-- The metrics band. -/
def metrics : List Metric :=
  [⟨12, .metricsTest, "+", false⟩, ⟨1800000, .metricsAccess, "+", true⟩,
   ⟨25, .metricsMembers, "", false⟩, ⟨9, .metricsPartners, "", false⟩,
   ⟨600, .metricsHours, "+", false⟩]

def achievements : List TextKey := [.ach1, .ach2, .ach3]
def goals : List TextKey := [.goal1, .goal2, .goal3]

/-- The gallery grid: image and its description. -/
def gallery : List (String × TextKey) :=
  [("/images/1.jpg", .projectImageAlt1), ("/images/5.jpeg", .projectImageAlt2),
   ("/images/7.jpg", .projectImageAlt3), ("/images/8.jpeg", .projectImageAlt4)]

/-- The wide image under the grid. -/
def galleryWide : String × TextKey := ("/images/6.png", .projectImageAlt5)

/-- The timeline: date and description. -/
def timeline : List (TextKey × TextKey) :=
  [(.timelineItem1Date, .timelineItem1Desc), (.timelineItem2Date, .timelineItem2Desc),
   (.timelineItem3Date, .timelineItem3Desc), (.timelineItem4Date, .timelineItem4Desc)]

/-- A department: its team card, its join card and its application form. -/
structure Department where
  key : String
  icon : String
  title : TextKey
  text : TextKey
  formUrl : String
  /-- The accent colour of the join card. -/
  color : String

def departments : List Department := [
  ⟨"mekanik", "icon-mekanik", .teamCard1Title, .teamCard1Text,
    "https://docs.google.com/forms/d/e/1FAIpQLSclVLDlyJaNslauTaTi_y40Z-7teateLN4u0U7B6tnM5Z-ZeQ/viewform",
    "#60a5fa"⟩,
  ⟨"elektronik", "icon-elektronik", .teamCard2Title, .teamCard2Text,
    "https://docs.google.com/forms/d/e/1FAIpQLSfn6BmYY-4C9Fh-5Ne3KXG68L45tbCRPZ7dcArHtspgVf_20g/viewform",
    "#34d399"⟩,
  ⟨"ucus", "icon-ucus", .teamCard3Title, .teamCard3Text,
    "https://docs.google.com/forms/d/e/1FAIpQLSfBIlWWReLruuUEczAag_HHtsQ4x4pb6e0trzZZC6DJ6KgH2w/viewform",
    "#a855f7"⟩,
  ⟨"yer", "icon-yer", .teamCard4Title, .teamCard4Text,
    "https://docs.google.com/forms/d/e/1FAIpQLSfQ8ETfVpVIzsVVHnglyiGMkC17nQqG-azaMKnf3Shv3RRRRQ/viewform",
    "#fbbf24"⟩,
  ⟨"org", "icon-org", .teamCard5Title, .teamCard5Text,
    "https://docs.google.com/forms/d/e/1FAIpQLScmo-XJhrZkSSB6i9hvrA-KNzYjsvkd6rnHUMzDbaIeUGScYg/viewform",
    "#f472b6"⟩]

/-- A sponsorship tier; a tier with a badge is featured. -/
structure SponsorTier where
  key : String
  title : TextKey
  benefits : List TextKey
  badge : Option TextKey

def sponsorTiers : List SponsorTier := [
  ⟨"silver", .sponsorTierSilverTitle, [.sponsorTierSilverBenefit1, .sponsorTierSilverBenefit2], none⟩,
  ⟨"platinum", .sponsorTierPlatinumTitle,
    [.sponsorTierPlatinumBenefit1, .sponsorTierPlatinumBenefit2, .sponsorTierPlatinumBenefit3,
     .sponsorTierPlatinumBenefit4], some .sponsorTierPlatinumBadge⟩,
  ⟨"gold", .sponsorTierGoldTitle,
    [.sponsorTierGoldBenefit1, .sponsorTierGoldBenefit2, .sponsorTierGoldBenefit3], none⟩]

/-- The join items: emoji and text. -/
def joinItems : List (String × TextKey) :=
  [("🚀", .joinItem1), ("🧪", .joinItem2), ("📚", .joinItem3), ("🤝", .joinItem4)]

/-- A contact link: address, label, class suffix, and whether it leaves the site. -/
structure ContactLink where
  href : String
  label : TextKey
  kind : String
  external : Bool

def contactLinks : List ContactLink :=
  [⟨"mailto:tayf.takimi@itu.edu.tr", .contactEmailAriaLabel, "email", false⟩,
   ⟨linkedInUrl, .contactLinkedInAriaLabel, "linkedin", true⟩,
   ⟨instagramUrl, .contactInstagramAriaLabel, "instagram", true⟩]

end SpaceTeamSite.Site
