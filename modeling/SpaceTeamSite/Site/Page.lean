import SpaceTeamSite.Site.Content
import SpaceTeamSite.Site.Params
import SpaceTeamSite.Site.Views
import SpaceTeamSite.Format.Compact

/-!
# Drawing the page

The page is one HTML document drawn in a single pass: the header with the language
switch, then the sections in page order, the live widgets inside the launches section,
and the footer. Every text from the table and every value from a record is escaped;
fixed markup, paths and numbers are written as they are.

While the launches widget loads, its list shows as many placeholder cards as the
initial count; the picture card shows a placeholder image.
-/

namespace SpaceTeamSite.Site

open Text (escape)

/-- What drawing a page needs besides the widgets: the texts, the parameters and the
site's name. -/
structure PageContext where
  text : Localizer
  params : PageParams
  siteName : String

namespace PageContext

/-- The escaped text of a key. -/
def t (page : PageContext) (key : TextKey) : String := escape (page.text.text key)

end PageContext

/-- Concatenates the pieces drawn for each item. -/
def each {α : Type} (xs : List α) (f : α → String) : String := String.join (xs.map f)

/-- The header: brand, navigation and the language switch. -/
def header (page : PageContext) : String :=
  "<header class=\"site-header\"><nav class=\"site-nav\"><a class=\"brand\" href=\"#hero\">" ++
  escape page.siteName ++ "</a><ul class=\"nav-links\">" ++
  each navLinks (fun (anchor, label) =>
    "<li><a href=\"#" ++ anchor ++ "\">" ++ page.t label ++ "</a></li>") ++
  "</ul><div class=\"lang-switch\" role=\"group\" aria-label=\"" ++ page.t .languageSwitchLabel ++ "\">" ++
  String.intercalate "<span class=\"sep\">|</span>" (Language.all.map fun lang =>
    "<a href=\"" ++ (page.params.withLang lang).href "" ++ "\" hreflang=\"" ++ lang.code ++
    "\" lang=\"" ++ lang.code ++ "\" title=\"" ++ lang.nativeName ++ "\"" ++
    (if lang == page.params.lang then " aria-current=\"true\"" else "") ++ ">" ++
    lang.code.toUpper ++ "</a>") ++
  "</div><button class=\"menu-toggle\" type=\"button\" aria-label=\"" ++ page.t .menuAriaLabel ++
  "\" aria-expanded=\"false\"></button></nav></header>"

/-- The hero section. -/
def hero (page : PageContext) : String :=
  "<section id=\"hero\" class=\"hero\" style=\"background-image: url('" ++ heroImagePath ++
  "')\"><img class=\"hero-logo\" src=\"" ++ logoPath ++ "\" alt=\"" ++ page.t .logoAlt ++
  "\" width=\"256\" height=\"256\"><h1>" ++ page.t .heroTitle ++ "</h1><p class=\"hero-subtitle\">" ++
  page.t .heroSubtitle ++ "</p><div class=\"hero-actions\"><a class=\"button button--primary\" href=\"#project\">" ++
  page.t .heroBtnProject ++ "</a><a class=\"button button--outline\" href=\"#sponsor\">" ++
  page.t .heroBtnSponsor ++ "</a></div></section>"

/-- A counter as shown, like `12+` or `1,8 Mn+`. -/
def Metric.shown (m : Metric) (lang : Language) : String :=
  (if m.compact then Format.compact m.value lang else toString m.value) ++ m.suffix

/-- The metrics band. -/
def metricsBand (page : PageContext) : String :=
  "<section id=\"metrics\" class=\"metrics\">" ++
  each metrics (fun m =>
    "<div class=\"metric\"><div class=\"metric__value\" data-target=\"" ++ toString m.value ++ "\">" ++
    escape (m.shown page.params.lang) ++ "</div><p>" ++ page.t m.label ++ "</p></div>") ++
  "</section>"

/-- A list of texts. -/
def textList (page : PageContext) (keys : List TextKey) : String :=
  "<ul>" ++ each keys (fun k => "<li>" ++ page.t k ++ "</li>") ++ "</ul>"

/-- The project section: about, media and timeline. -/
def project (page : PageContext) : String :=
  "<section id=\"project\" class=\"project\"><div class=\"project__about\"><h2>" ++ page.t .projectTitle ++
  "</h2><p>" ++ page.t .projectText ++
  "</p><section aria-labelledby=\"achievements-title\"><h3 id=\"achievements-title\">" ++
  page.t .projectAchievementsTitle ++ "</h3>" ++ textList page achievements ++
  "</section><section aria-labelledby=\"goals-title\"><h3 id=\"goals-title\">" ++
  page.t .projectGoalsTitle ++ "</h3>" ++ textList page goals ++
  "</section><div class=\"badges\"><span class=\"badge\">" ++ page.t .badgeFounded ++
  "</span><span class=\"badge\">" ++ page.t .badgeDRScorePrefix ++ "<span class=\"dr-score\">" ++
  drScore ++ "</span>/100</span></div></div>" ++
  "<div class=\"project__media\"><h3>" ++ page.t .galleryTitle ++
  "</h3><div class=\"tabs\" role=\"tablist\"><button id=\"tab-gallery\" role=\"tab\" aria-selected=\"true\" aria-controls=\"panel-gallery\">" ++
  page.t .tabGallery ++
  "</button><button id=\"tab-3d\" role=\"tab\" aria-selected=\"false\" aria-controls=\"panel-3d\">" ++
  page.t .tab3D ++
  "</button></div><div id=\"panel-gallery\" role=\"tabpanel\" aria-labelledby=\"tab-gallery\"><div class=\"gallery\">" ++
  each gallery (fun (src, alt) => "<img src=\"" ++ src ++ "\" alt=\"" ++ page.t alt ++ "\">") ++
  "</div><img class=\"gallery__wide\" src=\"" ++ galleryWide.1 ++ "\" alt=\"" ++ page.t galleryWide.2 ++
  "\"></div><div id=\"panel-3d\" role=\"tabpanel\" aria-labelledby=\"tab-3d\" hidden><div class=\"model-frame\"><iframe title=\"" ++
  modelTitle ++ "\" src=\"" ++ escape modelEmbedUrl ++
  "\" loading=\"lazy\" allow=\"autoplay; fullscreen; xr-spatial-tracking\" allowfullscreen></iframe></div><p class=\"hint\">" ++
  page.t .hintPan ++ "</p></div></div>" ++
  "<div class=\"timeline\"><h3>" ++ page.t .projectTimelineTitle ++ "</h3><ol>" ++
  each timeline (fun (date, desc) =>
    "<li class=\"timeline__item\"><p class=\"timeline__date\">" ++ page.t date ++ "</p><p>" ++
    page.t desc ++ "</p></li>") ++
  "</ol></div></section>"

/-- An icon from the page's sprite. -/
def icon (id : String) : String :=
  "<svg class=\"icon\" aria-hidden=\"true\"><use href=\"#" ++ id ++ "\"></use></svg>"

/-- The team section. -/
def team (page : PageContext) : String :=
  "<section id=\"team\" class=\"team\"><h2>" ++ page.t .teamTitle ++ "</h2><div class=\"team-grid\">" ++
  each departments (fun d =>
    "<div class=\"team-card\">" ++ icon d.icon ++ "<h3>" ++ page.t d.title ++ "</h3><p>" ++
    page.t d.text ++ "</p></div>") ++
  "</div></section>"

/-- The contact links. -/
def contactLinksHtml (page : PageContext) : String :=
  "<div class=\"contact-links\">" ++
  each contactLinks (fun l =>
    "<a class=\"contact-link contact-link--" ++ l.kind ++ "\" href=\"" ++ escape l.href ++
    "\" aria-label=\"" ++ page.t l.label ++ "\"" ++
    (if l.external then " target=\"_blank\" rel=\"noopener noreferrer\"" else "") ++ "></a>") ++
  "</div>"

/-- The sponsor section. -/
def sponsor (page : PageContext) : String :=
  "<section id=\"sponsor\" class=\"sponsor\"><div class=\"sponsor__intro\"><h2>" ++
  page.t .sponsorIntroTitle ++ "</h2><p>" ++ page.t .sponsorIntroSubtitle ++
  "</p><a class=\"button button--primary\" href=\"" ++ brochurePath ++ "\" download>" ++
  page.t .sponsorIntroBtn ++ "</a></div><div class=\"sponsor__tiers\"><h2>" ++
  page.t .sponsorTiersTitle ++ "</h2><div class=\"tier-grid\">" ++
  each sponsorTiers (fun tier =>
    "<div class=\"tier tier--" ++ tier.key ++ (if tier.badge.isSome then " tier--featured" else "") ++ "\">" ++
    (match tier.badge with
      | some b => "<span class=\"tier__badge\">" ++ page.t b ++ "</span>"
      | none => "") ++
    "<h3>" ++ page.t tier.title ++ "</h3>" ++ textList page tier.benefits ++
    "<a class=\"button\" href=\"#contact\">" ++ page.t .contactTitle ++ "</a></div>") ++
  "</div></div><div class=\"sponsor__cta\"><div><h3>" ++ page.t .sponsorFinalCtaTitle ++ "</h3><p>" ++
  page.t .sponsorFinalCtaText ++ "</p></div>" ++ contactLinksHtml page ++ "</div></section>"

/-- The join section. -/
def join (page : PageContext) : String :=
  "<section id=\"join\" class=\"join\"><h2>" ++ page.t .joinTitle ++ "</h2><p class=\"lead\">" ++
  page.t .joinLead ++ "</p><div class=\"join-departments\">" ++
  each departments (fun d =>
    "<a class=\"join-card join-card--" ++ d.key ++ "\" style=\"--accent: " ++ d.color ++ "\" href=\"" ++
    escape d.formUrl ++ "\" target=\"_blank\" rel=\"noopener noreferrer\">" ++ icon d.icon ++
    "<span>" ++ page.t d.title ++ "</span></a>") ++
  "</div><div class=\"join-items\">" ++
  each joinItems (fun (emoji, key) => "<div class=\"join-item\">" ++ emoji ++ " " ++ page.t key ++ "</div>") ++
  "</div></section>"

/-- The contact section. -/
def contact (page : PageContext) : String :=
  "<section id=\"contact\" class=\"contact\"><h2>" ++ page.t .contactTitle ++ "</h2><p>" ++
  page.t .contactText ++ "</p><p><a href=\"mailto:" ++ contactEmail ++ "\">" ++ contactEmail ++
  "</a></p>" ++ contactLinksHtml page ++ "</section>"

/-- The footer. -/
def footer (page : PageContext) : String :=
  "<footer class=\"site-footer\"><p>" ++ page.t .footerCopyright ++ "</p></footer>"

/-- One launch card. -/
def launchCardHtml (page : PageContext) (card : LaunchCard) : String :=
  let line (label : TextKey) (value : String) : String :=
    "<p><span class=\"label\">" ++ page.t label ++ ":</span> " ++ escape value ++ "</p>"
  "<article class=\"launch-card\" data-id=\"" ++ escape card.id ++ "\">" ++
  (match card.imageUrl with
    | some url => "<div class=\"launch-card__media\"><img src=\"" ++ escape url ++
        "\" loading=\"lazy\" alt=\"" ++ page.t .rocketAlt ++ "\"></div>"
    | none => "") ++
  "<h3>" ++ escape card.name ++ "</h3>" ++
  line .launchesOperatorLabel card.provider ++ line .launchesLocationLabel card.location ++
  line .launchesTimeLabel card.time ++
  (match card.mission with
    | some m => line .launchesMissionLabel m
    | none => "") ++
  (match card.status with
    | some s => "<span class=\"launch-status\">" ++ escape s ++ "</span>"
    | none => "") ++
  "</article>"

/-- A placeholder card shown while the list loads. -/
def skeletonCard : String :=
  "<div class=\"launch-card launch-card--skeleton\" aria-hidden=\"true\">" ++
  "<div class=\"skeleton skeleton--media\"></div>" ++
  "<div class=\"skeleton skeleton--title\"></div>" ++
  "<div class=\"skeleton skeleton--line\"></div>" ++
  "<div class=\"skeleton skeleton--line\"></div>" ++
  "<div class=\"skeleton skeleton--line\"></div>" ++
  "</div>"

/-- The card list, its status line and the show-more link. -/
def launchesListHtml (page : PageContext) (view : LaunchesView) : String :=
  "<div class=\"launches-list\" data-state=\"" ++ view.state ++
  "\"><div class=\"launches-list__head\"><h3>" ++ page.t .launchesListTitle ++
  "</h3><p class=\"launches-status\">" ++ escape (view.message.getD "") ++
  "</p></div><div class=\"launch-grid\">" ++
  (if view.state == "loading" then String.join (List.replicate view.initial skeletonCard)
   else each view.cards (launchCardHtml page)) ++
  "</div>" ++
  (if view.canShowMore then
    let (label, target) :=
      if view.expanded then (TextKey.launchesShowLess, page.params.withExpanded false)
      else (TextKey.launchesShowMore, page.params.withExpanded true)
    "<div class=\"launches-more\"><a class=\"button\" href=\"" ++ target.href "launches" ++ "\">" ++
    page.t label ++ "</a></div>"
   else "") ++
  "</div>"

/-- The picture card. -/
def pictureCardHtml (page : PageContext) (view : PictureView) : String :=
  "<div class=\"apod-card\" data-state=\"" ++ view.state ++
  "\"><div class=\"apod-card__head\"><span class=\"tag\">" ++ page.t .apodTitle ++
  "</span><span class=\"source\">" ++ page.t .apodSource ++ "</span></div><div class=\"apod-card__media\">" ++
  (if view.state == "loading" then "<div class=\"skeleton skeleton--media\"></div>"
   else match view.imageUrl, view.message with
    | some url, _ => "<img src=\"" ++ escape url ++ "\" alt=\"" ++ escape (view.title.getD "") ++ "\">"
    | none, some m => "<p class=\"apod-message\">" ++ escape m ++ "</p>"
    | none, none => "") ++
  "</div>" ++
  (match view.date with
    | some d => "<p class=\"apod-date\">" ++ page.t .apodDateLabel ++ ": " ++ escape d ++ "</p>"
    | none => "") ++
  "<div class=\"apod-card__body\"><p>" ++ escape (view.explanation.getD "") ++ "</p></div></div>"

/-- The launches section, with both live widgets. -/
def launchesSection (page : PageContext) (launches : LaunchesView) (picture : PictureView) : String :=
  "<section id=\"launches\" class=\"launches\"><div class=\"launches__head\"><div><p class=\"kicker\">" ++
  page.t .launchesKicker ++ "</p><h2>" ++ page.t .launchesTitle ++ "</h2><p class=\"lead\">" ++
  page.t .launchesLead ++ "</p></div><span class=\"live-tag\">" ++ page.t .launchesLiveTag ++
  "</span></div><div class=\"launches__body\"><div class=\"launches__apod\">" ++
  pictureCardHtml page picture ++ "</div><div class=\"launches__list\">" ++
  launchesListHtml page launches ++ "</div></div></section>"

/-- The whole document for resolved widget views. -/
def renderPage (page : PageContext) (launches : LaunchesView) (picture : PictureView) : String :=
  "<!DOCTYPE html><html lang=\"" ++ page.params.lang.code ++
  "\"><head><meta charset=\"utf-8\"><meta name=\"viewport\" content=\"width=device-width, initial-scale=1\"><title>" ++
  page.t .pageTitle ++ "</title><meta name=\"description\" content=\"" ++ page.t .pageDescription ++
  "\"></head><body>" ++
  header page ++ "<main>" ++ hero page ++ metricsBand page ++ project page ++ team page ++
  sponsor page ++ launchesSection page launches picture ++ join page ++ contact page ++ "</main>" ++
  footer page ++ "</body></html>"

end SpaceTeamSite.Site
