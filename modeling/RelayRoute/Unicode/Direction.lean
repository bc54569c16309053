import RelayRoute.Unicode.Segments

/-!
# Writing direction

The bidirectional class of a character in Unicode 16.0, for the characters that host names admit:
the classes that the rule for labels of mixed direction names, and `other` for the rest (separators
of paragraphs and lines, white space, embeddings and isolates).

* `Direction` — the classes;
* `directionTable`, `asciiDirection` — those of the characters beyond ASCII, and of ASCII;
* `direction` — the class of a character.
-/

namespace RelayRoute.Unicode

/-- The bidirectional class of a character. -/
inductive Direction
  | leftToRight
  | rightToLeft
  | arabicLetter
  | arabicNumber
  | europeanNumber
  | europeanSeparator
  | commonSeparator
  | europeanTerminator
  | neutral
  | boundaryNeutral
  | nonspacingMark
  | other
  deriving DecidableEq

/-- The class that a short name of the character database stands for. -/
def Direction.ofShortName? : List Char → Option Direction
  | ['L'] => some .leftToRight
  | ['R'] => some .rightToLeft
  | ['A', 'L'] => some .arabicLetter
  | ['A', 'N'] => some .arabicNumber
  | ['E', 'N'] => some .europeanNumber
  | ['E', 'S'] => some .europeanSeparator
  | ['C', 'S'] => some .commonSeparator
  | ['E', 'T'] => some .europeanTerminator
  | ['O', 'N'] => some .neutral
  | ['B', 'N'] => some .boundaryNeutral
  | ['N', 'S', 'M'] => some .nonspacingMark
  | _ => none

/-- The classes of the characters beyond ASCII that host names need. -/
def directionTable : SegmentMap Direction := SegmentMap.ofText Direction.ofShortName?
  "80-84:BN 86-9f:BN a0:CS a1:ON a2-a5:ET a6-a9:ON aa:L ab-ac:ON ad:BN ae-af:ON b0-b1:ET b2-b3:EN
    b4:ON b5:L b6-b8:ON b9:EN ba:L bb-bf:ON c0-d6:L d7:ON d8-f6:L f7:ON f8-2b8:L 2b9-2ba:ON
    2bb-2c1:L 2c2-2cf:ON 2d0-2d1:L 2d2-2df:ON 2e0-2e4:L 2e5-2ed:ON 2ee:L 2ef-2ff:ON 300-36f:NSM
    370-373:L 374-375:ON 376-37d:L 37e:ON 37f-383:L 384-385:ON 386:L 387:ON 388-3f5:L 3f6:ON
    3f7-482:L 483-489:NSM 48a-589:L 58a:ON 58b-58c:L 58d-58e:ON 58f:ET 590:R 591-5bd:NSM 5be:R
    5bf:NSM 5c0:R 5c1-5c2:NSM 5c3:R 5c4-5c5:NSM 5c6:R 5c7:NSM 5c8-5ff:R 600-605:AN 606-607:ON 608:AL
    609-60a:ET 60b:AL 60c:CS 60d:AL 60e-60f:ON 610-61a:NSM 61b-64a:AL 64b-65f:NSM 660-669:AN 66a:ET
    66b-66c:AN 66d-66f:AL 670:NSM 671-6d5:AL 6d6-6dc:NSM 6dd:AN 6de:ON 6df-6e4:NSM 6e5-6e6:AL
    6e7-6e8:NSM 6e9:ON 6ea-6ed:NSM 6ee-6ef:AL 6f0-6f9:EN 6fa-710:AL 711:NSM 712-72f:AL 730-74a:NSM
    74b-7a5:AL 7a6-7b0:NSM 7b1-7bf:AL 7c0-7ea:R 7eb-7f3:NSM 7f4-7f5:R 7f6-7f9:ON 7fa-7fc:R 7fd:NSM
    7fe-815:R 816-819:NSM 81a:R 81b-823:NSM 824:R 825-827:NSM 828:R 829-82d:NSM 82e-858:R
    859-85b:NSM 85c-85f:R 860-88f:AL 890-891:AN 892-897:AL 898-89f:NSM 8a0-8c9:AL 8ca-8e1:NSM 8e2:AN
    8e3-902:NSM 903-939:L 93a:NSM 93b:L 93c:NSM 93d-940:L 941-948:NSM 949-94c:L 94d:NSM 94e-950:L
    951-957:NSM 958-961:L 962-963:NSM 964-980:L 981:NSM 982-9bb:L 9bc:NSM 9bd-9c0:L 9c1-9c4:NSM
    9c5-9cc:L 9cd:NSM 9ce-9e1:L 9e2-9e3:NSM 9e4-9f1:L 9f2-9f3:ET 9f4-9fa:L 9fb:ET 9fc-9fd:L 9fe:NSM
    9ff-a00:L a01-a02:NSM a03-a3b:L a3c:NSM a3d-a40:L a41-a42:NSM a43-a46:L a47-a48:NSM a49-a4a:L
    a4b-a4d:NSM a4e-a50:L a51:NSM a52-a6f:L a70-a71:NSM a72-a74:L a75:NSM a76-a80:L a81-a82:NSM
    a83-abb:L abc:NSM abd-ac0:L ac1-ac5:NSM ac6:L ac7-ac8:NSM ac9-acc:L acd:NSM ace-ae1:L
    ae2-ae3:NSM ae4-af0:L af1:ET af2-af9:L afa-aff:NSM b00:L b01:NSM b02-b3b:L b3c:NSM b3d-b3e:L
    b3f:NSM b40:L b41-b44:NSM b45-b4c:L b4d:NSM b4e-b54:L b55-b56:NSM b57-b61:L b62-b63:NSM
    b64-b81:L b82:NSM b83-bbf:L bc0:NSM bc1-bcc:L bcd:NSM bce-bf2:L bf3-bf8:ON bf9:ET bfa:ON
    bfb-bff:L c00:NSM c01-c03:L c04:NSM c05-c3b:L c3c:NSM c3d:L c3e-c40:NSM c41-c45:L c46-c48:NSM
    c49:L c4a-c4d:NSM c4e-c54:L c55-c56:NSM c57-c61:L c62-c63:NSM c64-c77:L c78-c7e:ON c7f-c80:L
    c81:NSM c82-cbb:L cbc:NSM cbd-ccb:L ccc-ccd:NSM cce-ce1:L ce2-ce3:NSM ce4-cff:L d00-d01:NSM
    d02-d3a:L d3b-d3c:NSM d3d-d40:L d41-d44:NSM d45-d4c:L d4d:NSM d4e-d61:L d62-d63:NSM d64-d80:L
    d81:NSM d82-dc9:L dca:NSM dcb-dd1:L dd2-dd4:NSM dd5:L dd6:NSM dd7-e30:L e31:NSM e32-e33:L
    e34-e3a:NSM e3b-e3e:L e3f:ET e40-e46:L e47-e4e:NSM e4f-eb0:L eb1:NSM eb2-eb3:L eb4-ebc:NSM
    ebd-ec7:L ec8-ece:NSM ecf-f17:L f18-f19:NSM f1a-f34:L f35:NSM f36:L f37:NSM f38:L f39:NSM
    f3a-f3d:ON f3e-f70:L f71-f7e:NSM f7f:L f80-f84:NSM f85:L f86-f87:NSM f88-f8c:L f8d-f97:NSM f98:L
    f99-fbc:NSM fbd-fc5:L fc6:NSM fc7-102c:L 102d-1030:NSM 1031:L 1032-1037:NSM 1038:L 1039-103a:NSM
    103b-103c:L 103d-103e:NSM 103f-1057:L 1058-1059:NSM 105a-105d:L 105e-1060:NSM 1061-1070:L
    1071-1074:NSM 1075-1081:L 1082:NSM 1083-1084:L 1085-1086:NSM 1087-108c:L 108d:NSM 108e-109c:L
    109d:NSM 109e-135c:L 135d-135f:NSM 1360-138f:L 1390-1399:ON 139a-13ff:L 1400:ON 1401-167f:L
    1681-169a:L 169b-169c:ON 169d-1711:L 1712-1714:NSM 1715-1731:L 1732-1733:NSM 1734-1751:L
    1752-1753:NSM 1754-1771:L 1772-1773:NSM 1774-17b3:L 17b4-17b5:NSM 17b6:L 17b7-17bd:NSM
    17be-17c5:L 17c6:NSM 17c7-17c8:L 17c9-17d3:NSM 17d4-17da:L 17db:ET 17dc:L 17dd:NSM 17de-17ef:L
    17f0-17f9:ON 17fa-17ff:L 1800-180a:ON 180b-180d:NSM 180e:BN 180f:NSM 1810-1884:L 1885-1886:NSM
    1887-18a8:L 18a9:NSM 18aa-191f:L 1920-1922:NSM 1923-1926:L 1927-1928:NSM 1929-1931:L 1932:NSM
    1933-1938:L 1939-193b:NSM 193c-193f:L 1940:ON 1941-1943:L 1944-1945:ON 1946-19dd:L 19de-19ff:ON
    1a00-1a16:L 1a17-1a18:NSM 1a19-1a1a:L 1a1b:NSM 1a1c-1a55:L 1a56:NSM 1a57:L 1a58-1a5e:NSM 1a5f:L
    1a60:NSM 1a61:L 1a62:NSM 1a63-1a64:L 1a65-1a6c:NSM 1a6d-1a72:L 1a73-1a7c:NSM 1a7d-1a7e:L
    1a7f:NSM 1a80-1aaf:L 1ab0-1ace:NSM 1acf-1aff:L 1b00-1b03:NSM 1b04-1b33:L 1b34:NSM 1b35:L
    1b36-1b3a:NSM 1b3b:L 1b3c:NSM 1b3d-1b41:L 1b42:NSM 1b43-1b6a:L 1b6b-1b73:NSM 1b74-1b7f:L
    1b80-1b81:NSM 1b82-1ba1:L 1ba2-1ba5:NSM 1ba6-1ba7:L 1ba8-1ba9:NSM 1baa:L 1bab-1bad:NSM
    1bae-1be5:L 1be6:NSM 1be7:L 1be8-1be9:NSM 1bea-1bec:L 1bed:NSM 1bee:L 1bef-1bf1:NSM 1bf2-1c2b:L
    1c2c-1c33:NSM 1c34-1c35:L 1c36-1c37:NSM 1c38-1ccf:L 1cd0-1cd2:NSM 1cd3:L 1cd4-1ce0:NSM 1ce1:L
    1ce2-1ce8:NSM 1ce9-1cec:L 1ced:NSM 1cee-1cf3:L 1cf4:NSM 1cf5-1cf7:L 1cf8-1cf9:NSM 1cfa-1dbf:L
    1dc0-1dff:NSM 1e00-1fbc:L 1fbd:ON 1fbe:L 1fbf-1fc1:ON 1fc2-1fcc:L 1fcd-1fcf:ON 1fd0-1fdc:L
    1fdd-1fdf:ON 1fe0-1fec:L 1fed-1fef:ON 1ff0-1ffc:L 1ffd-1ffe:ON 1fff:L 200b-200d:BN 200e:L 200f:R
    2010-2027:ON 202f:CS 2030-2034:ET 2035-2043:ON 2044:CS 2045-205e:ON 2060-2065:BN 206a-206f:BN
    2070:EN 2071-2073:L 2074-2079:EN 207a-207b:ES 207c-207e:ON 207f:L 2080-2089:EN 208a-208b:ES
    208c-208e:ON 208f-209f:L 20a0-20cf:ET 20d0-20f0:NSM 20f1-20ff:L 2100-2101:ON 2102:L 2103-2106:ON
    2107:L 2108-2109:ON 210a-2113:L 2114:ON 2115:L 2116-2118:ON 2119-211d:L 211e-2123:ON 2124:L
    2125:ON 2126:L 2127:ON 2128:L 2129:ON 212a-212d:L 212e:ET 212f-2139:L 213a-213b:ON 213c-213f:L
    2140-2144:ON 2145-2149:L 214a-214d:ON 214e-214f:L 2150-215f:ON 2160-2188:L 2189-218b:ON
    218c-218f:L 2190-2211:ON 2212:ES 2213:ET 2214-2335:ON 2336-237a:L 237b-2394:ON 2395:L
    2396-2426:ON 2427-243f:L 2440-244a:ON 244b-245f:L 2460-2487:ON 2488-249b:EN 249c-24e9:L
    24ea-26ab:ON 26ac:L 26ad-27ff:ON 2800-28ff:L 2900-2b73:ON 2b74-2b75:L 2b76-2b95:ON 2b96:L
    2b97-2bff:ON 2c00-2ce4:L 2ce5-2cea:ON 2ceb-2cee:L 2cef-2cf1:NSM 2cf2-2cf8:L 2cf9-2cff:ON
    2d00-2d7e:L 2d7f:NSM 2d80-2ddf:L 2de0-2dff:NSM 2e00-2e5d:ON 2e5e-2e7f:L 2e80-2e99:ON 2e9a:L
    2e9b-2ef3:ON 2ef4-2eff:L 2f00-2fd5:ON 2fd6-2fef:L 2ff0-2ffb:ON 2ffc-2fff:L 3001-3004:ON
    3005-3007:L 3008-3020:ON 3021-3029:L 302a-302d:NSM 302e-302f:L 3030:ON 3031-3035:L 3036-3037:ON
    3038-303c:L 303d-303f:ON 3040-3098:L 3099-309a:NSM 309b-309c:ON 309d-309f:L 30a0:ON 30a1-30fa:L
    30fb:ON 30fc-31bf:L 31c0-31e3:ON 31e4-321c:L 321d-321e:ON 321f-324f:L 3250-325f:ON 3260-327b:L
    327c-327e:ON 327f-32b0:L 32b1-32bf:ON 32c0-32cb:L 32cc-32cf:ON 32d0-3376:L 3377-337a:ON
    337b-33dd:L 33de-33df:ON 33e0-33fe:L 33ff:ON 3400-4dbf:L 4dc0-4dff:ON 4e00-a48f:L a490-a4c6:ON
    a4c7-a60c:L a60d-a60f:ON a610-a66e:L a66f-a672:NSM a673:ON a674-a67d:NSM a67e-a67f:ON
    a680-a69d:L a69e-a69f:NSM a6a0-a6ef:L a6f0-a6f1:NSM a6f2-a6ff:L a700-a721:ON a722-a787:L a788:ON
    a789-a801:L a802:NSM a803-a805:L a806:NSM a807-a80a:L a80b:NSM a80c-a824:L a825-a826:NSM a827:L
    a828-a82b:ON a82c:NSM a82d-a837:L a838-a839:ET a83a-a873:L a874-a877:ON a878-a8c3:L
    a8c4-a8c5:NSM a8c6-a8df:L a8e0-a8f1:NSM a8f2-a8fe:L a8ff:NSM a900-a925:L a926-a92d:NSM
    a92e-a946:L a947-a951:NSM a952-a97f:L a980-a982:NSM a983-a9b2:L a9b3:NSM a9b4-a9b5:L
    a9b6-a9b9:NSM a9ba-a9bb:L a9bc-a9bd:NSM a9be-a9e4:L a9e5:NSM a9e6-aa28:L aa29-aa2e:NSM
    aa2f-aa30:L aa31-aa32:NSM aa33-aa34:L aa35-aa36:NSM aa37-aa42:L aa43:NSM aa44-aa4b:L aa4c:NSM
    aa4d-aa7b:L aa7c:NSM aa7d-aaaf:L aab0:NSM aab1:L aab2-aab4:NSM aab5-aab6:L aab7-aab8:NSM
    aab9-aabd:L aabe-aabf:NSM aac0:L aac1:NSM aac2-aaeb:L aaec-aaed:NSM aaee-aaf5:L aaf6:NSM
    aaf7-ab69:L ab6a-ab6b:ON ab6c-abe4:L abe5:NSM abe6-abe7:L abe8:NSM abe9-abec:L abed:NSM
    abee-d7ff:L e000-fb1c:L fb1d:R fb1e:NSM fb1f-fb28:R fb29:ES fb2a-fb4f:R fb50-fd3d:AL
    fd3e-fd4f:ON fd50-fdce:AL fdcf:ON fdd0-fdef:BN fdf0-fdfc:AL fdfd-fdff:ON fe00-fe0f:NSM
    fe10-fe19:ON fe1a-fe1f:L fe20-fe2f:NSM fe30-fe4f:ON fe50:CS fe51:ON fe52:CS fe53:L fe54:ON
    fe55:CS fe56-fe5e:ON fe5f:ET fe60-fe61:ON fe62-fe63:ES fe64-fe66:ON fe67:L fe68:ON fe69-fe6a:ET
    fe6b:ON fe6c-fe6f:L fe70-fefe:AL feff:BN ff00:L ff01-ff02:ON ff03-ff05:ET ff06-ff0a:ON ff0b:ES
    ff0c:CS ff0d:ES ff0e-ff0f:CS ff10-ff19:EN ff1a:CS ff1b-ff20:ON ff21-ff3a:L ff3b-ff40:ON
    ff41-ff5a:L ff5b-ff65:ON ff66-ffdf:L ffe0-ffe1:ET ffe2-ffe4:ON ffe5-ffe6:ET ffe7:L ffe8-ffee:ON
    ffef:L fff0-fff8:BN fff9-fffd:ON fffe-ffff:BN 10000-10100:L 10101:ON 10102-1013f:L
    10140-1018c:ON 1018d-1018f:L 10190-1019c:ON 1019d-1019f:L 101a0:ON 101a1-101fc:L 101fd:NSM
    101fe-102df:L 102e0:NSM 102e1-102fb:EN 102fc-10375:L 10376-1037a:NSM 1037b-107ff:L 10800-1091e:R
    1091f:ON 10920-10a00:R 10a01-10a03:NSM 10a04:R 10a05-10a06:NSM 10a07-10a0b:R 10a0c-10a0f:NSM
    10a10-10a37:R 10a38-10a3a:NSM 10a3b-10a3e:R 10a3f:NSM 10a40-10ae4:R 10ae5-10ae6:NSM
    10ae7-10b38:R 10b39-10b3f:ON 10b40-10cff:R 10d00-10d23:AL 10d24-10d27:NSM 10d28-10d2f:AL
    10d30-10d39:AN 10d3a-10d3f:AL 10d40-10e5f:R 10e60-10e7e:AN 10e7f-10eaa:R 10eab-10eac:NSM
    10ead-10ebf:R 10ec0-10efc:AL 10efd-10eff:NSM 10f00-10f2f:R 10f30-10f45:AL 10f46-10f50:NSM
    10f51-10f6f:AL 10f70-10f81:R 10f82-10f85:NSM 10f86-10fff:R 11000:L 11001:NSM 11002-11037:L
    11038-11046:NSM 11047-11051:L 11052-11065:ON 11066-1106f:L 11070:NSM 11071-11072:L
    11073-11074:NSM 11075-1107e:L 1107f-11081:NSM 11082-110b2:L 110b3-110b6:NSM 110b7-110b8:L
    110b9-110ba:NSM 110bb-110c1:L 110c2:NSM 110c3-110ff:L 11100-11102:NSM 11103-11126:L
    11127-1112b:NSM 1112c:L 1112d-11134:NSM 11135-11172:L 11173:NSM 11174-1117f:L 11180-11181:NSM
    11182-111b5:L 111b6-111be:NSM 111bf-111c8:L 111c9-111cc:NSM 111cd-111ce:L 111cf:NSM
    111d0-1122e:L 1122f-11231:NSM 11232-11233:L 11234:NSM 11235:L 11236-11237:NSM 11238-1123d:L
    1123e:NSM 1123f-11240:L 11241:NSM 11242-112de:L 112df:NSM 112e0-112e2:L 112e3-112ea:NSM
    112eb-112ff:L 11300-11301:NSM 11302-1133a:L 1133b-1133c:NSM 1133d-1133f:L 11340:NSM
    11341-11365:L 11366-1136c:NSM 1136d-1136f:L 11370-11374:NSM 11375-11437:L 11438-1143f:NSM
    11440-11441:L 11442-11444:NSM 11445:L 11446:NSM 11447-1145d:L 1145e:NSM 1145f-114b2:L
    114b3-114b8:NSM 114b9:L 114ba:NSM 114bb-114be:L 114bf-114c0:NSM 114c1:L 114c2-114c3:NSM
    114c4-115b1:L 115b2-115b5:NSM 115b6-115bb:L 115bc-115bd:NSM 115be:L 115bf-115c0:NSM
    115c1-115db:L 115dc-115dd:NSM 115de-11632:L 11633-1163a:NSM 1163b-1163c:L 1163d:NSM 1163e:L
    1163f-11640:NSM 11641-1165f:L 11660-1166c:ON 1166d-116aa:L 116ab:NSM 116ac:L 116ad:NSM
    116ae-116af:L 116b0-116b5:NSM 116b6:L 116b7:NSM 116b8-1171c:L 1171d:NSM 1171e:L 1171f:NSM
    11720-11721:L 11722-11725:NSM 11726:L 11727-1172b:NSM 1172c-1182e:L 1182f-11837:NSM 11838:L
    11839-1183a:NSM 1183b-1193a:L 1193b-1193c:NSM 1193d:L 1193e:NSM 1193f-11942:L 11943:NSM
    11944-119d3:L 119d4-119d7:NSM 119d8-119d9:L 119da-119db:NSM 119dc-119df:L 119e0:NSM
    119e1-11a00:L 11a01-11a06:NSM 11a07-11a08:L 11a09-11a0a:NSM 11a0b-11a32:L 11a33-11a38:NSM
    11a39-11a3a:L 11a3b-11a3e:NSM 11a3f-11a46:L 11a47:NSM 11a48-11a50:L 11a51-11a56:NSM
    11a57-11a58:L 11a59-11a5b:NSM 11a5c-11a89:L 11a8a-11a96:NSM 11a97:L 11a98-11a99:NSM
    11a9a-11c2f:L 11c30-11c36:NSM 11c37:L 11c38-11c3d:NSM 11c3e-11c91:L 11c92-11ca7:NSM
    11ca8-11ca9:L 11caa-11cb0:NSM 11cb1:L 11cb2-11cb3:NSM 11cb4:L 11cb5-11cb6:NSM 11cb7-11d30:L
    11d31-11d36:NSM 11d37-11d39:L 11d3a:NSM 11d3b:L 11d3c-11d3d:NSM 11d3e:L 11d3f-11d45:NSM 11d46:L
    11d47:NSM 11d48-11d8f:L 11d90-11d91:NSM 11d92-11d94:L 11d95:NSM 11d96:L 11d97:NSM 11d98-11ef2:L
    11ef3-11ef4:NSM 11ef5-11eff:L 11f00-11f01:NSM 11f02-11f35:L 11f36-11f3a:NSM 11f3b-11f3f:L
    11f40:NSM 11f41:L 11f42:NSM 11f43-11fd4:L 11fd5-11fdc:ON 11fdd-11fe0:ET 11fe1-11ff1:ON
    11ff2-1343f:L 13440:NSM 13441-13446:L 13447-13455:NSM 13456-16aef:L 16af0-16af4:NSM
    16af5-16b2f:L 16b30-16b36:NSM 16b37-16f4e:L 16f4f:NSM 16f50-16f8e:L 16f8f-16f92:NSM
    16f93-16fe1:L 16fe2:ON 16fe3:L 16fe4:NSM 16fe5-1bc9c:L 1bc9d-1bc9e:NSM 1bc9f:L 1bca0-1bca3:BN
    1bca4-1ceff:L 1cf00-1cf2d:NSM 1cf2e-1cf2f:L 1cf30-1cf46:NSM 1cf47-1d166:L 1d167-1d169:NSM
    1d16a-1d172:L 1d173-1d17a:BN 1d17b-1d182:NSM 1d183-1d184:L 1d185-1d18b:NSM 1d18c-1d1a9:L
    1d1aa-1d1ad:NSM 1d1ae-1d1e8:L 1d1e9-1d1ea:ON 1d1eb-1d1ff:L 1d200-1d241:ON 1d242-1d244:NSM
    1d245:ON 1d246-1d2ff:L 1d300-1d356:ON 1d357-1d6da:L 1d6db:ON 1d6dc-1d714:L 1d715:ON
    1d716-1d74e:L 1d74f:ON 1d750-1d788:L 1d789:ON 1d78a-1d7c2:L 1d7c3:ON 1d7c4-1d7cd:L
    1d7ce-1d7ff:EN 1d800-1d9ff:L 1da00-1da36:NSM 1da37-1da3a:L 1da3b-1da6c:NSM 1da6d-1da74:L
    1da75:NSM 1da76-1da83:L 1da84:NSM 1da85-1da9a:L 1da9b-1da9f:NSM 1daa0:L 1daa1-1daaf:NSM
    1dab0-1dfff:L 1e000-1e006:NSM 1e007:L 1e008-1e018:NSM 1e019-1e01a:L 1e01b-1e021:NSM 1e022:L
    1e023-1e024:NSM 1e025:L 1e026-1e02a:NSM 1e02b-1e08e:L 1e08f:NSM 1e090-1e12f:L 1e130-1e136:NSM
    1e137-1e2ad:L 1e2ae:NSM 1e2af-1e2eb:L 1e2ec-1e2ef:NSM 1e2f0-1e2fe:L 1e2ff:ET 1e300-1e4eb:L
    1e4ec-1e4ef:NSM 1e4f0-1e7ff:L 1e800-1e8cf:R 1e8d0-1e8d6:NSM 1e8d7-1e943:R 1e944-1e94a:NSM
    1e94b-1ec6f:R 1ec70-1ecbf:AL 1ecc0-1ecff:R 1ed00-1ed4f:AL 1ed50-1edff:R 1ee00-1eeef:AL
    1eef0-1eef1:ON 1eef2-1eeff:AL 1ef00-1efff:R 1f000-1f02b:ON 1f02c-1f02f:L 1f030-1f093:ON
    1f094-1f09f:L 1f0a0-1f0ae:ON 1f0af-1f0b0:L 1f0b1-1f0bf:ON 1f0c0:L 1f0c1-1f0cf:ON 1f0d0:L
    1f0d1-1f0f5:ON 1f0f6-1f0ff:L 1f100-1f10a:EN 1f10b-1f10f:ON 1f110-1f12e:L 1f12f:ON 1f130-1f169:L
    1f16a-1f16f:ON 1f170-1f1ac:L 1f1ad:ON 1f1ae-1f25f:L 1f260-1f265:ON 1f266-1f2ff:L 1f300-1f6d7:ON
    1f6d8-1f6db:L 1f6dc-1f6ec:ON 1f6ed-1f6ef:L 1f6f0-1f6fc:ON 1f6fd-1f6ff:L 1f700-1f776:ON
    1f777-1f77a:L 1f77b-1f7d9:ON 1f7da-1f7df:L 1f7e0-1f7eb:ON 1f7ec-1f7ef:L 1f7f0:ON 1f7f1-1f7ff:L
    1f800-1f80b:ON 1f80c-1f80f:L 1f810-1f847:ON 1f848-1f84f:L 1f850-1f859:ON 1f85a-1f85f:L
    1f860-1f887:ON 1f888-1f88f:L 1f890-1f8ad:ON 1f8ae-1f8af:L 1f8b0-1f8b1:ON 1f8b2-1f8ff:L
    1f900-1fa53:ON 1fa54-1fa5f:L 1fa60-1fa6d:ON 1fa6e-1fa6f:L 1fa70-1fa7c:ON 1fa7d-1fa7f:L
    1fa80-1fa88:ON 1fa89-1fa8f:L 1fa90-1fabd:ON 1fabe:L 1fabf-1fac5:ON 1fac6-1facd:L 1face-1fadb:ON
    1fadc-1fadf:L 1fae0-1fae8:ON 1fae9-1faef:L 1faf0-1faf8:ON 1faf9-1faff:L 1fb00-1fb92:ON 1fb93:L
    1fb94-1fbca:ON 1fbcb-1fbef:L 1fbf0-1fbf9:EN 1fbfa-1fffd:L 1fffe-1ffff:BN 20000-2fffd:L
    2fffe-2ffff:BN 30000-3fffd:L 3fffe-3ffff:BN 40000-4fffd:L 4fffe-4ffff:BN 50000-5fffd:L
    5fffe-5ffff:BN 60000-6fffd:L 6fffe-6ffff:BN 70000-7fffd:L 7fffe-7ffff:BN 80000-8fffd:L
    8fffe-8ffff:BN 90000-9fffd:L 9fffe-9ffff:BN a0000-afffd:L afffe-affff:BN b0000-bfffd:L
    bfffe-bffff:BN c0000-cfffd:L cfffe-cffff:BN d0000-dfffd:L dfffe-e00ff:BN e0100-e01ef:NSM
    e01f0-e0fff:BN e1000-efffd:L efffe-effff:BN f0000-ffffd:L ffffe-fffff:BN 100000-10fffd:L
    10fffe-10ffff:BN"

/-- The class of an ASCII character. -/
def asciiDirection (c : Char) : Direction :=
  if c.isAlpha then .leftToRight
  else if c.isDigit then .europeanNumber
  else if c == '+' || c == '-' then .europeanSeparator
  else if c == ',' || c == '.' || c == '/' || c == ':' then .commonSeparator
  else if c == '#' || c == '$' || c == '%' then .europeanTerminator
  else if c.toNat < 9 || (14 ≤ c.toNat && c.toNat < 28) || c.toNat == 127 then .boundaryNeutral
  else if c.toNat ≤ 32 then .other
  else .neutral

/-- The bidirectional class of a character. -/
def direction (c : Char) : Direction :=
  if c.toNat < 128 then asciiDirection c
  else match directionTable.find? c with
    | some s => s.value
    | none => .other

end RelayRoute.Unicode
