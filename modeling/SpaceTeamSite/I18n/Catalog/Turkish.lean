import SpaceTeamSite.I18n.TextKey

/-!
# The Turkish texts

Turkish is the primary language of the site: its table has a text for every key,
and every other language falls back to it.
-/

namespace SpaceTeamSite.Catalog

/-- The Turkish text of a key. The Turkish table is complete. -/
def turkish : TextKey → String
  | .pageTitle => "İTÜ TAYF"
  | .pageDescription => "İTÜ TAYF, roket ve uydu sistemleri geliştiren öğrenci uzay takımıdır."
  | .navProject => "Proje"
  | .navTeam => "Ekip"
  | .navSponsor => "Sponsorluk"
  | .navJoin => "Katıl"
  | .navContact => "İletişim"
  | .menuAriaLabel => "Menüyü aç"
  | .languageSwitchLabel => "Dil seçimi"
  | .logoAlt => "İTÜ TAYF logosu"
  | .heroTitle => "Yıldızlara Giden Yol İTÜ'den Geçer"
  | .heroSubtitle => "Öğrenciler tarafından tasarlanan, test edilen ve fırlatılan roket ve uydu sistemleri."
  | .heroBtnProject => "Projemizi Keşfet"
  | .heroBtnSponsor => "Sponsor Ol"
  | .metricsTest => "Başarılı Test"
  | .metricsAccess => "Erişim"
  | .metricsMembers => "Aktif Üye"
  | .metricsPartners => "Paydaş"
  | .metricsHours => "Saat Mühendislik"
  | .projectTitle => "Projemiz"
  | .projectText => "Haberleşme uydusu görevimiz; yapısal tasarım, aviyonik, uçuş yazılımı ve yer istasyonunu tek bir entegre sistemde buluşturuyor. Her alt sistem takım üyelerimiz tarafından sıfırdan geliştiriliyor ve test ediliyor."
  | .projectAchievementsTitle => "Başarılarımız"
  | .ach1 => "Ulusal model uydu yarışmasında finalist"
  | .ach2 => "Kritik Tasarım Raporu'nda yüksek puan"
  | .ach3 => "Başarılı yükseklik ve ayrılma testleri"
  | .projectGoalsTitle => "Hedeflerimiz"
  | .goal1 => "Uluslararası yarışmalarda ülkemizi temsil etmek"
  | .goal2 => "Yörüngeye ulaşabilecek bir alt sistem geliştirmek"
  | .goal3 => "Uzay mühendisliği bilgisini kampüste yaygınlaştırmak"
  | .badgeFounded => "Kuruluş: 2021"
  | .badgeDRScorePrefix => "KTR Puanı: "
  | .galleryTitle => "Galeri"
  | .tabGallery => "Fotoğraflar"
  | .tab3D => "3B Model"
  | .hintPan => "Modeli döndürmek için sürükleyin, yakınlaştırmak için kaydırın."
  | .projectImageAlt1 => "Entegrasyon sırasında uydu gövdesi"
  | .projectImageAlt2 => "Aviyonik kartın yakından görünümü"
  | .projectImageAlt3 => "Test alanında takım üyeleri"
  | .projectImageAlt4 => "Yer istasyonu anteni"
  | .projectImageAlt5 => "Sistem mimarisi şeması"
  | .projectTimelineTitle => "Yol Haritası"
  | .timelineItem1Date => "Ekim 2021"
  | .timelineItem1Desc => "Takımın kuruluşu ve ilk kavramsal tasarım"
  | .timelineItem2Date => "Mart 2022"
  | .timelineItem2Desc => "Ön Tasarım Raporu teslimi"
  | .timelineItem3Date => "Haziran 2023"
  | .timelineItem3Desc => "İlk uçuş modelinin entegrasyonu ve testleri"
  | .timelineItem4Date => "2025 ve sonrası"
  | .timelineItem4Desc => "Uluslararası yarışmalar ve yörünge hedefleri"
  | .teamTitle => "Ekiplerimiz"
  | .teamCard1Title => "Mekanik"
  | .teamCard1Text => "Yapısal tasarım, malzeme seçimi ve üretim süreçleri."
  | .teamCard2Title => "Elektronik"
  | .teamCard2Text => "Aviyonik, güç sistemleri ve sensör entegrasyonu."
  | .teamCard3Title => "Uçuş Yazılımı"
  | .teamCard3Text => "Gömülü yazılım, telemetri ve kontrol algoritmaları."
  | .teamCard4Title => "Yer İstasyonu"
  | .teamCard4Text => "Haberleşme, anten sistemleri ve veri görselleştirme."
  | .teamCard5Title => "Organizasyon"
  | .teamCard5Text => "Sponsorluk, etkinlikler, tasarım ve sosyal medya."
  | .sponsorIntroTitle => "Geleceği Birlikte İnşa Edelim"
  | .sponsorIntroSubtitle => "Desteğiniz genç mühendislerin uzaya uzanan projelerine güç veriyor."
  | .sponsorIntroBtn => "Tanıtım Dosyasını İndir"
  | .sponsorTiersTitle => "Sponsorluk Paketleri"
  | .sponsorTierSilverTitle => "Gümüş"
  | .sponsorTierSilverBenefit1 => "Web sitesinde logo"
  | .sponsorTierSilverBenefit2 => "Sosyal medyada teşekkür paylaşımı"
  | .sponsorTierPlatinumTitle => "Platin"
  | .sponsorTierPlatinumBadge => "Önerilen"
  | .sponsorTierPlatinumBenefit1 => "Uydu gövdesinde büyük logo"
  | .sponsorTierPlatinumBenefit2 => "Takım kıyafetlerinde logo"
  | .sponsorTierPlatinumBenefit3 => "Yarışma sunumlarında özel anma"
  | .sponsorTierPlatinumBenefit4 => "Şirketinize özel teknik seminer"
  | .sponsorTierGoldTitle => "Altın"
  | .sponsorTierGoldBenefit1 => "Uydu gövdesinde logo"
  | .sponsorTierGoldBenefit2 => "Web sitesinde öne çıkan logo"
  | .sponsorTierGoldBenefit3 => "Etkinliklerde stant imkânı"
  | .sponsorFinalCtaTitle => "Sorularınız mı var?"
  | .sponsorFinalCtaText => "Size en uygun iş birliği modelini birlikte belirleyelim."
  | .launchesKicker => "Canlı Veri"
  | .launchesTitle => "Uzayda Bu Hafta"
  | .launchesLead => "Yaklaşan roket fırlatmaları ve NASA'nın günün astronomi fotoğrafı."
  | .launchesLiveTag => "Canlı"
  | .launchesListTitle => "Yaklaşan Fırlatmalar"
  | .launchesLoading => "Fırlatmalar yükleniyor…"
  | .launchesEmpty => "Şu anda planlanmış fırlatma bulunmuyor."
  | .launchesError => "Fırlatma verileri alınamadı."
  | .launchesShowMore => "Daha fazla göster"
  | .launchesShowLess => "Daha az göster"
  | .launchesUnknownName => "İsimsiz görev"
  | .launchesUnknownOperator => "Bilinmeyen operatör"
  | .launchesUnknownLocation => "Bilinmeyen konum"
  | .launchesNoDate => "Tarih belirlenmedi"
  | .launchesOperatorLabel => "Operatör"
  | .launchesLocationLabel => "Konum"
  | .launchesTimeLabel => "Zaman"
  | .launchesMissionLabel => "Görev"
  | .rocketAlt => "Roket görseli"
  | .apodTitle => "Günün Astronomi Fotoğrafı"
  | .apodSource => "NASA APOD"
  | .apodLoading => "Fotoğraf yükleniyor…"
  | .apodNoImage => "Bugünün içeriği bir fotoğraf değil."
  | .apodError => "Günün fotoğrafı alınamadı."
  | .apodDateLabel => "Tarih"
  | .joinTitle => "Aramıza Katıl"
  | .joinLead => "Hangi alanda olursan ol, TAYF'ta sana uygun bir yörünge var. Bir departman seç ve başvurunu yap."
  | .joinItem1 => "Gerçek uzay projelerinde deneyim"
  | .joinItem2 => "Test ve üretim süreçlerinde uygulamalı çalışma"
  | .joinItem3 => "Eğitimler ve teknik atölyeler"
  | .joinItem4 => "Sektörle güçlü bağlantılar"
  | .contactTitle => "İletişim"
  | .contactText => "Sorularınız ve iş birliği teklifleriniz için bize ulaşın."
  | .contactEmailAriaLabel => "E-posta gönder"
  | .contactLinkedInAriaLabel => "LinkedIn sayfamız"
  | .contactInstagramAriaLabel => "Instagram hesabımız"
  | .footerCopyright => "© 2025 İTÜ TAYF. Tüm hakları saklıdır."

end SpaceTeamSite.Catalog
