import SiteGateway.Text.Ranges
import SiteGateway.Text.Shifts

/-!
# Characters of international domain names

How a domain name folds its characters before it is written in ASCII: letters lose their case,
compatibility forms become ordinary characters, and invisible ones vanish.
-/

namespace SiteGateway

namespace DomainTable

/-- Characters that fold to one other character. -/
def single : List Shift := Shift.table
  "a0-a0/1~80 aa-aa/1~49 b2-b3/1~80 b5-b5/1+307 b9-b9/1~88 ba-ba/1~4b c0-d6/1+20 d8-de/1+20
   100-12e/2+1 134-136/2+1 139-13d/2+1 141-147/2+1 14a-176/2+1 178-178/1~79 179-17d/2+1
   17f-17f/1~10c 181-181/1+d2 182-184/2+1 186-186/1+ce 187-187/1+1 189-18a/1+cd 18b-18b/1+1
   18e-18e/1+4f 18f-18f/1+ca 190-190/1+cb 191-191/1+1 193-193/1+cd 194-194/1+cf 196-196/1+d3
   197-197/1+d1 198-198/1+1 19c-19c/1+d3 19d-19d/1+d5 19f-19f/1+d6 1a0-1a4/2+1 1a6-1a6/1+da
   1a7-1a7/1+1 1a9-1a9/1+da 1ac-1ac/1+1 1ae-1ae/1+da 1af-1af/1+1 1b1-1b2/1+d9 1b3-1b5/2+1
   1b7-1b7/1+db 1b8-1b8/1+1 1bc-1bc/1+1 1cd-1db/2+1 1de-1ee/2+1 1f4-1f4/1+1 1f6-1f6/1~61
   1f7-1f7/1~38 1f8-21e/2+1 220-220/1~82 222-232/2+1 23a-23a/1+2a2b 23b-23b/1+1 23d-23d/1~a3
   23e-23e/1+2a28 241-241/1+1 243-243/1~c3 244-244/1+45 245-245/1+47 246-24e/2+1 2b0-2b0/1~248
   2b1-2b1/1~4b 2b2-2b2/1~248 2b3-2b3/1~241 2b4-2b4/1~3b 2b5-2b5/1~3a 2b6-2b6/1~35 2b7-2b7/1~240
   2b8-2b8/1~23f 2e0-2e0/1~7d 2e1-2e1/1~275 2e2-2e2/1~26f 2e3-2e3/1~26b 2e4-2e4/1~4f 340-341/1~40
   343-343/1~30 345-345/1+74 370-372/2+1 374-374/1~bb 376-376/1+1 37e-37e/1~343 37f-37f/1+74
   386-386/1+26 387-387/1~2d0 388-38a/1+25 38c-38c/1+40 38e-38f/1+3f 391-3a1/1+20 3a3-3ab/1+20
   3cf-3cf/1+8 3d0-3d0/1~1e 3d1-3d1/1~19 3d2-3d2/1~d 3d3-3d3/1~6 3d4-3d4/1~9 3d5-3d5/1~f
   3d6-3d6/1~16 3d8-3ee/2+1 3f0-3f0/1~36 3f1-3f1/1~30 3f2-3f2/1~2f 3f4-3f4/1~3c 3f5-3f5/1~40
   3f7-3f7/1+1 3f9-3f9/1~36 3fa-3fa/1+1 3fd-3ff/1~82 400-40f/1+50 410-42f/1+20 460-480/2+1
   48a-4be/2+1 4c0-4c0/1+f 4c1-4cd/2+1 4d0-52e/2+1 531-556/1+30 f0c-f0c/1~1 10a0-10c5/1+1c60
   10c7-10c7/1+1c60 10cd-10cd/1+1c60 10fc-10fc/1~20 13f8-13fd/1~8 1c80-1c80/1~184e 1c81-1c81/1~184d
   1c82-1c82/1~1844 1c83-1c84/1~1842 1c85-1c85/1~1843 1c86-1c86/1~183c 1c87-1c87/1~1824
   1c88-1c88/1+89c3 1c90-1cba/1~bc0 1cbd-1cbf/1~bc0 1d2c-1d2c/1~1ccb 1d2d-1d2d/1~1c47
   1d2e-1d30/2~1ccc 1d31-1d31/1~1ccc 1d32-1d32/1~1b55 1d33-1d3a/1~1ccc 1d3c-1d3c/1~1ccd
   1d3d-1d3d/1~1b1a 1d3e-1d3e/1~1cce 1d3f-1d3f/1~1ccd 1d40-1d41/1~1ccc 1d42-1d42/1~1ccb
   1d43-1d43/1~1ce2 1d44-1d45/1~1af4 1d46-1d46/1~44 1d47-1d47/1~1ce5 1d48-1d49/1~1ce4
   1d4a-1d4a/1~1af1 1d4b-1d4c/1~1af0 1d4d-1d4d/1~1ce6 1d4f-1d4f/1~1ce4 1d50-1d50/1~1ce3
   1d51-1d51/1~1c06 1d52-1d52/1~1ce3 1d53-1d53/1~1aff 1d54-1d55/1~3e 1d56-1d56/1~1ce6
   1d57-1d58/1~1ce3 1d59-1d59/1~3c 1d5a-1d5a/1~1aeb 1d5b-1d5b/1~1ce5 1d5c-1d5c/1~37
   1d5d-1d5f/1~19ab 1d60-1d61/1~199a 1d62-1d62/1~1cf9 1d63-1d63/1~1cf1 1d64-1d65/1~1cef
   1d66-1d67/1~19b4 1d68-1d68/1~19a7 1d69-1d6a/1~19a3 1d78-1d78/1~193b 1d9b-1d9b/1~1b49
   1d9c-1d9c/1~1d39 1d9d-1d9d/1~1b48 1d9e-1d9e/1~1cae 1d9f-1d9f/1~1b43 1da0-1da0/1~1d3a
   1da1-1da1/1~1b42 1da2-1da2/1~1b41 1da3-1da3/1~1b3e 1da4-1da6/1~1b3c 1da7-1da7/1~2c
   1da8-1da8/1~1b0b 1da9-1da9/1~1b3c 1daa-1daa/1~25 1dab-1dab/1~1b0c 1dac-1dac/1~1b3b
   1dad-1dad/1~1b3d 1dae-1db1/1~1b3c 1db2-1db2/1~1b3a 1db3-1db4/1~1b31 1db5-1db5/1~1c0a
   1db6-1db7/1~1b2d 1db8-1db8/1~9c 1db9-1dba/1~1b2e 1dbb-1dbb/1~1d41 1dbc-1dbe/1~1b2c
   1dbf-1dbf/1~1a07 1e00-1e94/2+1 1e9b-1e9b/1~3a 1e9e-1e9e/1~1dbf 1ea0-1efe/2+1 1f08-1f0f/1~8
   1f18-1f1d/1~8 1f28-1f2f/1~8 1f38-1f3f/1~8 1f48-1f4d/1~8 1f59-1f5f/2~8 1f68-1f6f/1~8
   1f71-1f71/1~1bc5 1f73-1f73/1~1bc6 1f75-1f75/1~1bc7 1f77-1f77/1~1bc8 1f79-1f79/1~1bad
   1f7b-1f7b/1~1bae 1f7d-1f7d/1~1baf 1fb8-1fb9/1~8 1fba-1fba/1~4a 1fbb-1fbb/1~1c0f 1fbe-1fbe/1~1c05
   1fc8-1fc8/1~56 1fc9-1fc9/1~1c1c 1fca-1fca/1~56 1fcb-1fcb/1~1c1d 1fd3-1fd3/1~1c43 1fd8-1fd9/1~8
   1fda-1fda/1~64 1fdb-1fdb/1~1c2c 1fe3-1fe3/1~1c33 1fe8-1fe9/1~8 1fea-1fea/1~70 1feb-1feb/1~1c1e
   1fec-1fec/1~7 1fef-1fef/1~1f8f 1ff8-1ff8/1~80 1ff9-1ff9/1~1c2d 1ffa-1ffa/1~7e 1ffb-1ffb/1~1c2d
   2000-2000/1~1fe0 2001-2001/1~1fe1 2002-2002/1~1fe2 2003-2003/1~1fe3 2004-2004/1~1fe4
   2005-2005/1~1fe5 2006-2006/1~1fe6 2007-2007/1~1fe7 2008-2008/1~1fe8 2009-2009/1~1fe9
   200a-200a/1~1fea 2011-2011/1~1 2024-2024/1~1ff6 202f-202f/1~200f 205f-205f/1~203f
   2070-2070/1~2040 2071-2071/1~2008 2074-2079/1~2040 207a-207a/1~204f 207b-207b/1+197
   207c-207c/1~203f 207d-207e/1~2055 207f-207f/1~2011 2080-2089/1~2050 208a-208a/1~205f
   208b-208b/1+187 208c-208c/1~204f 208d-208e/1~2065 2090-2090/1~202f 2091-2091/1~202c
   2092-2092/1~2023 2093-2093/1~201b 2094-2094/1~1e3b 2095-2095/1~202d 2096-2099/1~202b
   209a-209a/1~202a 209b-209c/1~2028 2102-2102/1~209f 2107-2107/1~1eac 210a-210b/1~20a3
   210c-210c/1~20a4 210d-210d/1~20a5 210e-210e/1~20a6 210f-210f/1~1fe8 2110-2110/1~20a7
   2111-2111/1~20a8 2112-2112/1~20a6 2113-2115/2~20a7 2119-211b/1~20a9 211c-211c/1~20aa
   211d-211d/1~20ab 2124-2124/1~20aa 2126-2126/1~1d5d 2128-2128/1~20ae 212a-212a/1~20bf
   212b-212b/1~2046 212c-212d/1~20ca 212f-212f/1~20ca 2130-2131/1~20cb 2132-2132/1+1c
   2133-2133/1~20c6 2134-2134/1~20c5 2135-2138/1~1b65 2139-2139/1~20d0 213c-213c/1~1d7c
   213d-213d/1~1d8a 213e-213e/1~1d8b 213f-213f/1~1d7f 2140-2140/1+d1 2145-2145/1~20e1
   2146-2147/1~20e2 2148-2149/1~20df 2160-2160/1~20f7 2164-2164/1~20ee 2169-2169/1~20f1
   216c-216c/1~2100 216d-216e/1~210a 216f-216f/1~2102 2170-2170/1~2107 2174-2174/1~20fe
   2179-2179/1~2101 217c-217c/1~2110 217d-217e/1~211a 217f-217f/1~2112 2183-2183/1+1
   2329-232a/1+cdf 2460-2468/1~242f 24b6-24cf/1~2455 24d0-24e9/1~246f 24ea-24ea/1~24ba
   2c00-2c2f/1+30 2c60-2c60/1+1 2c62-2c62/1~29f7 2c63-2c63/1~ee6 2c64-2c64/1~29e7 2c67-2c6b/2+1
   2c6d-2c6d/1~2a1c 2c6e-2c6e/1~29fd 2c6f-2c6f/1~2a1f 2c70-2c70/1~2a1e 2c72-2c72/1+1 2c75-2c75/1+1
   2c7c-2c7c/1~2c12 2c7d-2c7d/1~2c07 2c7e-2c7f/1~2a3f 2c80-2ce2/2+1 2ceb-2ced/2+1 2cf2-2cf2/1+1
   2d6f-2d6f/1~e 2e9f-2e9f/1+3d2e 2ef3-2ef3/1+70ac 2f00-2f00/1+1f00 2f01-2f01/1+1f27
   2f02-2f02/1+1f34 2f03-2f03/1+1f3c 2f04-2f04/1+1f55 2f05-2f05/1+1f80 2f06-2f06/1+1f86
   2f07-2f07/1+1f99 2f08-2f08/1+1fb2 2f09-2f09/1+2236 2f0a-2f0a/1+225b 2f0b-2f0b/1+2260
   2f0c-2f0c/1+2276 2f0d-2f0d/1+2289 2f0e-2f0e/1+229d 2f0f-2f0f/1+22d1 2f10-2f10/1+22e5
   2f11-2f11/1+22ef 2f12-2f12/1+2389 2f13-2f13/1+23e6 2f14-2f14/1+2401 2f15-2f15/1+2405
   2f16-2f16/1+2422 2f17-2f17/1+242a 2f18-2f18/1+2444 2f19-2f19/1+2450 2f1a-2f1a/1+2468
   2f1b-2f1b/1+249b 2f1c-2f1c/1+24ac 2f1d-2f1d/1+24c6 2f1e-2f1e/1+27b9 2f1f-2f1f/1+2800
   2f20-2f20/1+29cb 2f21-2f21/1+29e1 2f22-2f22/1+29e8 2f23-2f23/1+29f2 2f24-2f24/1+2a03
   2f25-2f25/1+2a4e 2f26-2f26/1+2c2a 2f27-2f27/1+2c59 2f28-2f28/1+2cd0 2f29-2f29/1+2ce6
   2f2a-2f2a/1+2cf8 2f2b-2f2b/1+2d0d 2f2c-2f2c/1+2d42 2f2d-2f2d/1+2d44 2f2e-2f2e/1+2ead
   2f2f-2f2f/1+2eb6 2f30-2f30/1+2ec1 2f31-2f31/1+2ecd 2f32-2f32/1+2f40 2f33-2f33/1+2f47
   2f34-2f34/1+2f4b 2f35-2f35/1+2fbf 2f36-2f36/1+2fc8 2f37-2f37/1+2fd4 2f38-2f38/1+2fdb
   2f39-2f39/1+3017 2f3a-2f3a/1+3027 2f3b-2f3b/1+3038 2f3c-2f3c/1+3087 2f3d-2f3d/1+32cb
   2f3e-2f3e/1+32f8 2f3f-2f3f/1+330c 2f40-2f40/1+35ef 2f41-2f41/1+35f3 2f42-2f42/1+3645
   2f43-2f43/1+3654 2f44-2f44/1+3660 2f45-2f45/1+3674 2f46-2f46/1+369a 2f47-2f47/1+369e
   2f48-2f48/1+37a8 2f49-2f49/1+37bf 2f4a-2f4a/1+37de 2f4b-2f4b/1+3bd5 2f4c-2f4c/1+3c16
   2f4d-2f4d/1+3c2c 2f4e-2f4e/1+3c65 2f4f-2f4f/1+3c7c 2f50-2f50/1+3c84 2f51-2f51/1+3c8a
   2f52-2f52/1+3cbd 2f53-2f53/1+3cc1 2f54-2f54/1+3ce0 2f55-2f55/1+4116 2f56-2f56/1+42d4
   2f57-2f57/1+42df 2f58-2f58/1+42e3 2f59-2f59/1+42e6 2f5a-2f5a/1+42ed 2f5b-2f5b/1+42fe
   2f5c-2f5c/1+42ff 2f5d-2f5d/1+434f 2f5e-2f5e/1+4426 2f5f-2f5f/1+442a 2f60-2f60/1+457c
   2f61-2f61/1+4585 2f62-2f62/1+45b6 2f63-2f63/1+45bc 2f64-2f64/1+45c4 2f65-2f65/1+45cb
   2f66-2f66/1+4625 2f67-2f67/1+462b 2f68-2f68/1+470e 2f69-2f69/1+4714 2f6a-2f6a/1+4744
   2f6b-2f6b/1+4754 2f6c-2f6c/1+4782 2f6d-2f6d/1+486e 2f6e-2f6e/1+4874 2f6f-2f6f/1+4884
   2f70-2f70/1+49ca 2f71-2f71/1+4a47 2f72-2f72/1+4a4c 2f73-2f73/1+4b01 2f74-2f74/1+4b57
   2f75-2f75/1+4b84 2f76-2f76/1+4cfd 2f77-2f77/1+4d81 2f78-2f78/1+4fbe 2f79-2f79/1+4fd8
   2f7a-2f7a/1+5010 2f7b-2f7b/1+5042 2f7c-2f7c/1+5085 2f7d-2f7d/1+508f 2f7e-2f7e/1+5094
   2f7f-2f7f/1+50b4 2f80-2f80/1+50ff 2f81-2f81/1+5108 2f82-2f82/1+5261 2f83-2f83/1+5267
   2f84-2f84/1+526f 2f85-2f85/1+5277 2f86-2f86/1+5286 2f87-2f87/1+5294 2f88-2f88/1+5297
   2f89-2f89/1+52e5 2f8a-2f8a/1+52e8 2f8b-2f8b/1+52ed 2f8c-2f8c/1+56c1 2f8d-2f8d/1+56de
   2f8e-2f8e/1+58b2 2f8f-2f8f/1+58bd 2f90-2f90/1+58d3 2f91-2f91/1+59ed 2f92-2f92/1+59f9
   2f93-2f93/1+5a3f 2f94-2f94/1+5a6c 2f95-2f95/1+5ca2 2f96-2f96/1+5cb0 2f97-2f97/1+5cbe
   2f98-2f98/1+5ce0 2f99-2f99/1+5d04 2f9a-2f9a/1+5dca 2f9b-2f9b/1+5dd5 2f9c-2f9c/1+5e17
   2f9d-2f9d/1+5f0e 2f9e-2f9e/1+5f2c 2f9f-2f9f/1+5ffc 2fa0-2fa0/1+6010 2fa1-2fa1/1+6014
   2fa2-2fa2/1+60ef 2fa3-2fa3/1+61a6 2fa4-2fa4/1+6222 2fa5-2fa5/1+6227 2fa6-2fa6/1+622b
   2fa7-2fa7/1+65d0 2fa8-2fa8/1+65d8 2fa9-2fa9/1+6673 2faa-2faa/1+670c 2fab-2fab/1+670e
   2fac-2fac/1+673c 2fad-2fad/1+67a4 2fae-2fae/1+67b0 2faf-2faf/1+67b3 2fb0-2fb0/1+67b9
   2fb1-2fb1/1+681a 2fb2-2fb2/1+683b 2fb3-2fb3/1+6840 2fb4-2fb4/1+684d 2fb5-2fb5/1+68f3
   2fb6-2fb6/1+6925 2fb7-2fb7/1+6928 2fb8-2fb8/1+69de 2fb9-2fb9/1+69e0 2fba-2fba/1+69f2
   2fbb-2fbb/1+6aed 2fbc-2fbc/1+6b1c 2fbd-2fbd/1+6b22 2fbe-2fbe/1+6b67 2fbf-2fbf/1+6b70
   2fc0-2fc0/1+6b72 2fc1-2fc1/1+6b7b 2fc2-2fc2/1+6b98 2fc3-2fc3/1+6d22 2fc4-2fc4/1+6eb1
   2fc5-2fc5/1+6eba 2fc6-2fc6/1+6edf 2fc7-2fc7/1+6ef4 2fc8-2fc8/1+6efb 2fc9-2fc9/1+6f04
   2fca-2fca/1+6f07 2fcb-2fcb/1+6f2e 2fcc-2fcc/1+6f31 2fcd-2fcd/1+6f41 2fce-2fce/1+6f45
   2fcf-2fcf/1+6f51 2fd0-2fd0/1+6f6b 2fd1-2fd1/1+6f79 2fd2-2fd2/1+6f80 2fd3-2fd3/1+6fba
   2fd4-2fd4/1+6fc8 2fd5-2fd5/1+6fcb 3000-3000/1~2fe0 3002-3002/1~2fd4 3036-3036/1~24
   3038-3038/1+2309 3039-303a/1+230b 3131-3132/1~2031 3133-3133/1~1f89 3134-3134/1~2032
   3135-3136/1~1f89 3137-3139/1~2034 313a-313f/1~1f8a 3140-3140/1~2026 3141-3143/1~203b
   3144-3144/1~2023 3145-314e/1~203c 314f-3163/1~1fee 3165-3166/1~2051 3167-3168/1~1fa0
   3169-3169/1~1f9d 316a-316a/1~1f9c 316b-316b/1~1f98 316c-316c/1~1f95 316d-316d/1~1f94
   316e-316e/1~2052 316f-316f/1~1f92 3170-3170/1~1f91 3171-3172/1~2054 3173-3173/1~2053
   3174-3175/1~2052 3176-3176/1~204f 3177-3177/1~204e 3178-317c/1~204d 317d-317d/1~204b
   317e-317e/1~2048 317f-317f/1~203f 3180-3180/1~2039 3181-3181/1~2035 3182-3183/1~1f91
   3184-3186/1~202d 3187-3188/1~2003 3189-3189/1~2001 318a-318b/1~1ff9 318c-318c/1~1ff8
   318d-318d/1~1fef 318e-318e/1~1fed 3192-3192/1+1c6e 3193-3193/1+1cf9 3194-3194/1+1c75
   3195-3195/1+2546 3196-3196/1+1c74 3197-3197/1+1c96 3198-3198/1+1c73 3199-3199/1+4399
   319a-319a/1+1cbf 319b-319b/1+1c7e 319c-319c/1+1c65 319d-319d/1+278c 319e-319e/1+2592
   319f-319f/1+1d1b 3244-3244/1+230b 3245-3245/1+2c37 3246-3246/1+3341 3247-3247/1+4948
   3260-3260/1~2160 3261-3262/1~215f 3263-3265/1~215e 3266-3266/1~215d 3267-3268/1~215c
   3269-326d/1~215b 326e-326e/1+7992 326f-326f/1+7e29 3270-3270/1+8074 3271-3271/1+850b
   3272-3272/1+8756 3273-3273/1+89a1 3274-3274/1+8e38 3275-3275/1+92cf 3276-3276/1+951a
   3277-3277/1+99b1 3278-3278/1+9bfc 3279-3279/1+9e47 327a-327a/1+a092 327b-327b/1+a2dd
   327e-327e/1+9432 3280-3280/1+1b80 3281-3281/1+1c0b 3282-3282/1+1b87 3283-3283/1+2458
   3284-3284/1+1c10 3285-3285/1+1ee8 3286-3286/1+1b7d 3287-3287/1+1ee4 3288-3288/1+1bd5
   3289-3289/1+20b8 328a-328a/1+347e 328b-328b/1+3de0 328c-328c/1+39a8 328d-328d/1+349b
   328e-328e/1+5f43 328f-328f/1+2490 3290-3290/1+3355 3291-3291/1+3599 3292-3292/1+3477
   3293-3293/1+46ab 3294-3294/1+2179 3295-3295/1+3fe4 3296-3296/1+5a0b 3297-3297/1+46c6
   3298-3298/1+201c 3299-3299/1+473f 329a-329a/1+429d 329b-329b/1+26d8 329c-329c/1+5dcd
   329d-329d/1+1e8d 329e-329e/1+20d2 329f-329f/1+3a49 32a0-32a0/1+6565 32a1-32a1/1+1c70
   32a2-32a2/1+1ef7 32a3-32a3/1+38c0 32a4-32a4/1+1b66 32a5-32a5/1+1b88 32a6-32a6/1+1b65
   32a7-32a7/1+2b3f 32a8-32a8/1+214b 32a9-32a9/1+2092 32aa-32aa/1+28ed 32ab-32ab/1+28bb
   32ac-32ac/1+4437 32ad-32ad/1+1c54 32ae-32ae/1+5a19 32af-32af/1+20a5 32b0-32b0/1+266c
   32d0-32d0/1~22e 32d1-32d1/1~22d 32d2-32d2/1~22c 32d3-32d3/1~22b 32d4-32d5/1~22a 32d6-32d6/1~229
   32d7-32d7/1~228 32d8-32d8/1~227 32d9-32d9/1~226 32da-32da/1~225 32db-32db/1~224 32dc-32dc/1~223
   32dd-32dd/1~222 32de-32de/1~221 32df-32df/1~220 32e0-32e0/1~21f 32e1-32e1/1~21d 32e2-32e2/1~21c
   32e3-32e3/1~21b 32e4-32e9/1~21a 32ea-32ea/1~218 32eb-32eb/1~216 32ec-32ec/1~214 32ed-32ed/1~212
   32ee-32f2/1~210 32f3-32f3/1~20f 32f4-32f4/1~20e 32f5-32fa/1~20d 32fb-32fe/1~20c a640-a66c/2+1
   a680-a69a/2+1 a722-a72e/2+1 a732-a76e/2+1 a77e-a786/2+1 a796-a7a8/2+1 a7b4-a7c2/2+1
   ab70-abbf/1~97d0 fb24-fb26/1~f549 fe41-fe44/1~ce35 ff01-ff20/1~fee0 ff21-ff3a/1~fec0
   ff3b-ff5e/1~fee0 ff5f-ff60/1~d5da ff61-ff61/1~ff33 ff62-ff63/1~cf56 ff64-ff64/1~cf63
   ff65-ff65/1~ce6a ff66-ff66/1~ce74 ff67-ff67/1~cec6 ff68-ff68/1~cec5 ff69-ff69/1~cec4
   ff6a-ff6a/1~cec3 ff6b-ff6b/1~cec2 ff6c-ff6c/1~ce89 ff6d-ff6d/1~ce88 ff6e-ff6e/1~ce87
   ff6f-ff6f/1~ceac ff70-ff70/1~ce74 ff71-ff71/1~cecf ff72-ff72/1~cece ff73-ff73/1~cecd
   ff74-ff74/1~cecc ff75-ff76/1~cecb ff77-ff77/1~ceca ff78-ff78/1~cec9 ff79-ff79/1~cec8
   ff7a-ff7a/1~cec7 ff7b-ff7b/1~cec6 ff7c-ff7c/1~cec5 ff7d-ff7d/1~cec4 ff7e-ff7e/1~cec3
   ff7f-ff7f/1~cec2 ff80-ff80/1~cec1 ff81-ff81/1~cec0 ff82-ff82/1~cebe ff83-ff83/1~cebd
   ff84-ff84/1~cebc ff85-ff8a/1~cebb ff8b-ff8b/1~ceb9 ff8c-ff8c/1~ceb7 ff8d-ff8d/1~ceb5
   ff8e-ff8e/1~ceb3 ff8f-ff93/1~ceb1 ff94-ff94/1~ceb0 ff95-ff95/1~ceaf ff96-ff9b/1~ceae
   ff9c-ff9c/1~cead ff9d-ff9d/1~ceaa ff9e-ff9f/1~cf05 ffa1-ffa2/1~eea1 ffa3-ffa3/1~edf9
   ffa4-ffa4/1~eea2 ffa5-ffa6/1~edf9 ffa7-ffa9/1~eea4 ffaa-ffaf/1~edfa ffb0-ffb0/1~ee96
   ffb1-ffb3/1~eeab ffb4-ffb4/1~ee93 ffb5-ffbe/1~eeac ffc2-ffc7/1~ee61 ffca-ffcf/1~ee63
   ffd2-ffd7/1~ee65 ffda-ffdc/1~ee67 ffe0-ffe1/1~ff3e ffe2-ffe2/1~ff36 ffe4-ffe4/1~ff3e
   ffe5-ffe5/1~ff40 ffe6-ffe6/1~df3d ffe8-ffe8/1~dae6 ffe9-ffec/1~de59 ffed-ffed/1~da4d
   ffee-ffee/1~da23 10400-10427/1+28 104b0-104d3/1+28 10570-1057a/1+27 1057c-1058a/1+27
   1058c-10592/1+27 10594-10595/1+27 10781-10782/1~104b1 10783-10783/1~1069d 10784-10784/1~104eb
   10785-10785/1~10532 10787-10787/1~104e4 10788-10788/1~5c22 10789-10789/1~104e4
   1078a-1078a/1~104e6 1078b-1078c/1~10535 1078d-1078d/1~e9fc 1078e-1078e/1~10536
   1078f-1078f/1~10531 10790-10790/1~104e7 10791-10791/1~1052d 10792-10792/1~10530
   10793-10793/1~10533 10794-10794/1~104f9 10795-10795/1~1066e 10796-10796/1~104fa
   10797-10797/1~10530 10798-10798/1~10514 10799-1079a/1~104ef 1079b-1079b/1~1052f
   1079c-1079c/1+d768 1079d-1079d/1~600f 1079e-1079e/1~10530 1079f-1079f/1+d766 107a0-107a0/1~10512
   107a1-107a1/1+d765 107a2-107a2/1~106aa 107a3-107a4/1~1052d 107a5-107a5/1~10734
   107a6-107a6/1~1052c 107a7-107a7/1+d761 107a8-107a9/1~1052b 107aa-107aa/1~1052a
   107ab-107ab/1~10503 107ac-107ac/1~10506 107ad-107ad/1~5c46 107ae-107ae/1~10507
   107af-107af/1~10527 107b0-107b0/1~db3f 107b2-107b2/1~10523 107b3-107b4/1~10512
   107b5-107b5/1~1051d 107b6-107b8/1~105f6 107b9-107b9/1+d751 107ba-107ba/1+d764 10c80-10cb2/1+40
   118a0-118bf/1+20 16e40-16e5f/1+20 1d400-1d419/1~1d39f 1d41a-1d433/1~1d3b9 1d434-1d44d/1~1d3d3
   1d44e-1d454/1~1d3ed 1d456-1d467/1~1d3ed 1d468-1d481/1~1d407 1d482-1d49b/1~1d421
   1d49c-1d49e/2~1d43b 1d49f-1d49f/1~1d43b 1d4a2-1d4a2/1~1d43b 1d4a5-1d4a6/1~1d43b
   1d4a9-1d4ac/1~1d43b 1d4ae-1d4b5/1~1d43b 1d4b6-1d4b9/1~1d455 1d4bb-1d4bd/2~1d455
   1d4be-1d4c3/1~1d455 1d4c5-1d4cf/1~1d455 1d4d0-1d4e9/1~1d46f 1d4ea-1d503/1~1d489
   1d504-1d505/1~1d4a3 1d507-1d50a/1~1d4a3 1d50d-1d514/1~1d4a3 1d516-1d51c/1~1d4a3
   1d51e-1d537/1~1d4bd 1d538-1d539/1~1d4d7 1d53b-1d53e/1~1d4d7 1d540-1d544/1~1d4d7
   1d546-1d546/1~1d4d7 1d54a-1d550/1~1d4d7 1d552-1d56b/1~1d4f1 1d56c-1d585/1~1d50b
   1d586-1d59f/1~1d525 1d5a0-1d5b9/1~1d53f 1d5ba-1d5d3/1~1d559 1d5d4-1d5ed/1~1d573
   1d5ee-1d607/1~1d58d 1d608-1d621/1~1d5a7 1d622-1d63b/1~1d5c1 1d63c-1d655/1~1d5db
   1d656-1d66f/1~1d5f5 1d670-1d689/1~1d60f 1d68a-1d6a3/1~1d629 1d6a4-1d6a4/1~1d573
   1d6a5-1d6a5/1~1d46e 1d6a8-1d6b8/1~1d2f7 1d6b9-1d6b9/1~1d301 1d6ba-1d6c0/1~1d2f7
   1d6c1-1d6c1/1~1b4ba 1d6c2-1d6d2/1~1d311 1d6d3-1d6d3/1~1d310 1d6d4-1d6da/1~1d311
   1d6db-1d6db/1~1b4d9 1d6dc-1d6dc/1~1d327 1d6dd-1d6dd/1~1d325 1d6de-1d6de/1~1d324
   1d6df-1d6df/1~1d319 1d6e0-1d6e0/1~1d31f 1d6e1-1d6e1/1~1d321 1d6e2-1d6f2/1~1d331
   1d6f3-1d6f3/1~1d33b 1d6f4-1d6fa/1~1d331 1d6fb-1d6fb/1~1b4f4 1d6fc-1d70c/1~1d34b
   1d70d-1d70d/1~1d34a 1d70e-1d714/1~1d34b 1d715-1d715/1~1b513 1d716-1d716/1~1d361
   1d717-1d717/1~1d35f 1d718-1d718/1~1d35e 1d719-1d719/1~1d353 1d71a-1d71a/1~1d359
   1d71b-1d71b/1~1d35b 1d71c-1d72c/1~1d36b 1d72d-1d72d/1~1d375 1d72e-1d734/1~1d36b
   1d735-1d735/1~1b52e 1d736-1d746/1~1d385 1d747-1d747/1~1d384 1d748-1d74e/1~1d385
   1d74f-1d74f/1~1b54d 1d750-1d750/1~1d39b 1d751-1d751/1~1d399 1d752-1d752/1~1d398
   1d753-1d753/1~1d38d 1d754-1d754/1~1d393 1d755-1d755/1~1d395 1d756-1d766/1~1d3a5
   1d767-1d767/1~1d3af 1d768-1d76e/1~1d3a5 1d76f-1d76f/1~1b568 1d770-1d780/1~1d3bf
   1d781-1d781/1~1d3be 1d782-1d788/1~1d3bf 1d789-1d789/1~1b587 1d78a-1d78a/1~1d3d5
   1d78b-1d78b/1~1d3d3 1d78c-1d78c/1~1d3d2 1d78d-1d78d/1~1d3c7 1d78e-1d78e/1~1d3cd
   1d78f-1d78f/1~1d3cf 1d790-1d7a0/1~1d3df 1d7a1-1d7a1/1~1d3e9 1d7a2-1d7a8/1~1d3df
   1d7a9-1d7a9/1~1b5a2 1d7aa-1d7ba/1~1d3f9 1d7bb-1d7bb/1~1d3f8 1d7bc-1d7c2/1~1d3f9
   1d7c3-1d7c3/1~1b5c1 1d7c4-1d7c4/1~1d40f 1d7c5-1d7c5/1~1d40d 1d7c6-1d7c6/1~1d40c
   1d7c7-1d7c7/1~1d401 1d7c8-1d7c8/1~1d407 1d7c9-1d7c9/1~1d409 1d7ca-1d7ca/1~1d3ed
   1d7cb-1d7cb/1~1d3ee 1d7ce-1d7d7/1~1d79e 1d7d8-1d7e1/1~1d7a8 1d7e2-1d7eb/1~1d7b2
   1d7ec-1d7f5/1~1d7bc 1d7f6-1d7ff/1~1d7c6 1e900-1e921/1+22 1ee0a-1ee0d/1~1e7c7 1ee2a-1ee2d/1~1e7e7
   1ee8b-1ee8d/1~1e847 1eeab-1eead/1~1e867 1f130-1f149/1~1f0cf 1fbf0-1fbf9/1~1fbc0"

/-- Characters that fold to several, or one by one to another. -/
def several : Expansions := Expansions.table
  "a8=20,308 af=20,304 b4=20,301 b8=20,327 bc=31,2044,34 bd=31,2044,32 be=33,2044,34 130=69,307
   132=69,6a 133=69,6a 13f=6c,b7 140=6c,b7 149=2bc,6e 1c4=64,17e 1c5=64,17e 1c6=64,17e 1c7=6c,6a
   1c8=6c,6a 1c9=6c,6a 1ca=6e,6a 1cb=6e,6a 1cc=6e,6a 1f1=64,7a 1f2=64,7a 1f3=64,7a 2d8=20,306
   2d9=20,307 2da=20,30a 2db=20,328 2dc=20,303 2dd=20,30b 344=308,301 37a=20,3b9 384=20,301
   385=20,308,301 587=565,582 675=627,674 676=648,674 677=6c7,674 678=64a,674 958=915,93c
   959=916,93c 95a=917,93c 95b=91c,93c 95c=921,93c 95d=922,93c 95e=92b,93c 95f=92f,93c 9dc=9a1,9bc
   9dd=9a2,9bc 9df=9af,9bc a33=a32,a3c a36=a38,a3c a59=a16,a3c a5a=a17,a3c a5b=a1c,a3c a5e=a2b,a3c
   b5c=b21,b3c b5d=b22,b3c e33=e4d,e32 eb3=ecd,eb2 edc=eab,e99 edd=eab,ea1 f43=f42,fb7 f4d=f4c,fb7
   f52=f51,fb7 f57=f56,fb7 f5c=f5b,fb7 f69=f40,fb5 f73=f71,f72 f75=f71,f74 f76=fb2,f80
   f77=fb2,f71,f80 f78=fb3,f80 f79=fb3,f71,f80 f81=f71,f80 f93=f92,fb7 f9d=f9c,fb7 fa2=fa1,fb7
   fa7=fa6,fb7 fac=fab,fb7 fb9=f90,fb5 1e9a=61,2be 1f80=1f00,3b9 1f81=1f01,3b9 1f82=1f02,3b9
   1f83=1f03,3b9 1f84=1f04,3b9 1f85=1f05,3b9 1f86=1f06,3b9 1f87=1f07,3b9 1f88=1f00,3b9
   1f89=1f01,3b9 1f8a=1f02,3b9 1f8b=1f03,3b9 1f8c=1f04,3b9 1f8d=1f05,3b9 1f8e=1f06,3b9
   1f8f=1f07,3b9 1f90=1f20,3b9 1f91=1f21,3b9 1f92=1f22,3b9 1f93=1f23,3b9 1f94=1f24,3b9
   1f95=1f25,3b9 1f96=1f26,3b9 1f97=1f27,3b9 1f98=1f20,3b9 1f99=1f21,3b9 1f9a=1f22,3b9
   1f9b=1f23,3b9 1f9c=1f24,3b9 1f9d=1f25,3b9 1f9e=1f26,3b9 1f9f=1f27,3b9 1fa0=1f60,3b9
   1fa1=1f61,3b9 1fa2=1f62,3b9 1fa3=1f63,3b9 1fa4=1f64,3b9 1fa5=1f65,3b9 1fa6=1f66,3b9
   1fa7=1f67,3b9 1fa8=1f60,3b9 1fa9=1f61,3b9 1faa=1f62,3b9 1fab=1f63,3b9 1fac=1f64,3b9
   1fad=1f65,3b9 1fae=1f66,3b9 1faf=1f67,3b9 1fb2=1f70,3b9 1fb3=3b1,3b9 1fb4=3ac,3b9 1fb7=1fb6,3b9
   1fbc=3b1,3b9 1fbd=20,313 1fbf=20,313 1fc0=20,342 1fc1=20,308,342 1fc2=1f74,3b9 1fc3=3b7,3b9
   1fc4=3ae,3b9 1fc7=1fc6,3b9 1fcc=3b7,3b9 1fcd=20,313,300 1fce=20,313,301 1fcf=20,313,342
   1fdd=20,314,300 1fde=20,314,301 1fdf=20,314,342 1fed=20,308,300 1fee=20,308,301 1ff2=1f7c,3b9
   1ff3=3c9,3b9 1ff4=3ce,3b9 1ff7=1ff6,3b9 1ffc=3c9,3b9 1ffd=20,301 1ffe=20,314 2017=20,333
   2025=2e,2e 2026=2e,2e,2e 2033=2032,2032 2034=2032,2032,2032 2036=2035,2035 2037=2035,2035,2035
   203c=21,21 203e=20,305 2047=3f,3f 2048=3f,21 2049=21,3f 2057=2032,2032,2032,2032 20a8=72,73
   2100=61,2f,63 2101=61,2f,73 2103=b0,63 2105=63,2f,6f 2106=63,2f,75 2109=b0,66 2116=6e,6f
   2120=73,6d 2121=74,65,6c 2122=74,6d 213b=66,61,78 2150=31,2044,37 2151=31,2044,39
   2152=31,2044,31,30 2153=31,2044,33 2154=32,2044,33 2155=31,2044,35 2156=32,2044,35
   2157=33,2044,35 2158=34,2044,35 2159=31,2044,36 215a=35,2044,36 215b=31,2044,38 215c=33,2044,38
   215d=35,2044,38 215e=37,2044,38 215f=31,2044 2161=69,69 2162=69,69,69 2163=69,76 2165=76,69
   2166=76,69,69 2167=76,69,69,69 2168=69,78 216a=78,69 216b=78,69,69 2171=69,69 2172=69,69,69
   2173=69,76 2175=76,69 2176=76,69,69 2177=76,69,69,69 2178=69,78 217a=78,69 217b=78,69,69
   2189=30,2044,33 222c=222b,222b 222d=222b,222b,222b 222f=222e,222e 2230=222e,222e,222e 2469=31,30
   246a=31,31 246b=31,32 246c=31,33 246d=31,34 246e=31,35 246f=31,36 2470=31,37 2471=31,38
   2472=31,39 2473=32,30 2474=28,31,29 2475=28,32,29 2476=28,33,29 2477=28,34,29 2478=28,35,29
   2479=28,36,29 247a=28,37,29 247b=28,38,29 247c=28,39,29 247d=28,31,30,29 247e=28,31,31,29
   247f=28,31,32,29 2480=28,31,33,29 2481=28,31,34,29 2482=28,31,35,29 2483=28,31,36,29
   2484=28,31,37,29 2485=28,31,38,29 2486=28,31,39,29 2487=28,32,30,29 2488=31,2e 2489=32,2e
   248a=33,2e 248b=34,2e 248c=35,2e 248d=36,2e 248e=37,2e 248f=38,2e 2490=39,2e 2491=31,30,2e
   2492=31,31,2e 2493=31,32,2e 2494=31,33,2e 2495=31,34,2e 2496=31,35,2e 2497=31,36,2e
   2498=31,37,2e 2499=31,38,2e 249a=31,39,2e 249b=32,30,2e 249c=28,61,29 249d=28,62,29
   249e=28,63,29 249f=28,64,29 24a0=28,65,29 24a1=28,66,29 24a2=28,67,29 24a3=28,68,29
   24a4=28,69,29 24a5=28,6a,29 24a6=28,6b,29 24a7=28,6c,29 24a8=28,6d,29 24a9=28,6e,29
   24aa=28,6f,29 24ab=28,70,29 24ac=28,71,29 24ad=28,72,29 24ae=28,73,29 24af=28,74,29
   24b0=28,75,29 24b1=28,76,29 24b2=28,77,29 24b3=28,78,29 24b4=28,79,29 24b5=28,7a,29
   2a0c=222b,222b,222b,222b 2a74=3a,3a,3d 2a75=3d,3d 2a76=3d,3d,3d 2adc=2add,338 309b=20,3099
   309c=20,309a 309f=3088,308a 30ff=30b3,30c8 3200=28,1100,29 3201=28,1102,29 3202=28,1103,29
   3203=28,1105,29 3204=28,1106,29 3205=28,1107,29 3206=28,1109,29 3207=28,110b,29 3208=28,110c,29
   3209=28,110e,29 320a=28,110f,29 320b=28,1110,29 320c=28,1111,29 320d=28,1112,29 320e=28,ac00,29
   320f=28,b098,29 3210=28,b2e4,29 3211=28,b77c,29 3212=28,b9c8,29 3213=28,bc14,29 3214=28,c0ac,29
   3215=28,c544,29 3216=28,c790,29 3217=28,cc28,29 3218=28,ce74,29 3219=28,d0c0,29 321a=28,d30c,29
   321b=28,d558,29 321c=28,c8fc,29 321d=28,c624,c804,29 321e=28,c624,d6c4,29 3220=28,4e00,29
   3221=28,4e8c,29 3222=28,4e09,29 3223=28,56db,29 3224=28,4e94,29 3225=28,516d,29 3226=28,4e03,29
   3227=28,516b,29 3228=28,4e5d,29 3229=28,5341,29 322a=28,6708,29 322b=28,706b,29 322c=28,6c34,29
   322d=28,6728,29 322e=28,91d1,29 322f=28,571f,29 3230=28,65e5,29 3231=28,682a,29 3232=28,6709,29
   3233=28,793e,29 3234=28,540d,29 3235=28,7279,29 3236=28,8ca1,29 3237=28,795d,29 3238=28,52b4,29
   3239=28,4ee3,29 323a=28,547c,29 323b=28,5b66,29 323c=28,76e3,29 323d=28,4f01,29 323e=28,8cc7,29
   323f=28,5354,29 3240=28,796d,29 3241=28,4f11,29 3242=28,81ea,29 3243=28,81f3,29 3250=70,74,65
   3251=32,31 3252=32,32 3253=32,33 3254=32,34 3255=32,35 3256=32,36 3257=32,37 3258=32,38
   3259=32,39 325a=33,30 325b=33,31 325c=33,32 325d=33,33 325e=33,34 325f=33,35 327c=cc38,ace0
   327d=c8fc,c758 32b1=33,36 32b2=33,37 32b3=33,38 32b4=33,39 32b5=34,30 32b6=34,31 32b7=34,32
   32b8=34,33 32b9=34,34 32ba=34,35 32bb=34,36 32bc=34,37 32bd=34,38 32be=34,39 32bf=35,30
   32c0=31,6708 32c1=32,6708 32c2=33,6708 32c3=34,6708 32c4=35,6708 32c5=36,6708 32c6=37,6708
   32c7=38,6708 32c8=39,6708 32c9=31,30,6708 32ca=31,31,6708 32cb=31,32,6708 32cc=68,67
   32cd=65,72,67 32ce=65,76 32cf=6c,74,64 32ff=4ee4,548c 3300=30a2,30d1,30fc,30c8
   3301=30a2,30eb,30d5,30a1 3302=30a2,30f3,30da,30a2 3303=30a2,30fc,30eb 3304=30a4,30cb,30f3,30b0
   3305=30a4,30f3,30c1 3306=30a6,30a9,30f3 3307=30a8,30b9,30af,30fc,30c9 3308=30a8,30fc,30ab,30fc
   3309=30aa,30f3,30b9 330a=30aa,30fc,30e0 330b=30ab,30a4,30ea 330c=30ab,30e9,30c3,30c8
   330d=30ab,30ed,30ea,30fc 330e=30ac,30ed,30f3 330f=30ac,30f3,30de 3310=30ae,30ac
   3311=30ae,30cb,30fc 3312=30ad,30e5,30ea,30fc 3313=30ae,30eb,30c0,30fc 3314=30ad,30ed
   3315=30ad,30ed,30b0,30e9,30e0 3316=30ad,30ed,30e1,30fc,30c8,30eb 3317=30ad,30ed,30ef,30c3,30c8
   3318=30b0,30e9,30e0 3319=30b0,30e9,30e0,30c8,30f3 331a=30af,30eb,30bc,30a4,30ed
   331b=30af,30ed,30fc,30cd 331c=30b1,30fc,30b9 331d=30b3,30eb,30ca 331e=30b3,30fc,30dd
   331f=30b5,30a4,30af,30eb 3320=30b5,30f3,30c1,30fc,30e0 3321=30b7,30ea,30f3,30b0
   3322=30bb,30f3,30c1 3323=30bb,30f3,30c8 3324=30c0,30fc,30b9 3325=30c7,30b7 3326=30c9,30eb
   3327=30c8,30f3 3328=30ca,30ce 3329=30ce,30c3,30c8 332a=30cf,30a4,30c4
   332b=30d1,30fc,30bb,30f3,30c8 332c=30d1,30fc,30c4 332d=30d0,30fc,30ec,30eb
   332e=30d4,30a2,30b9,30c8,30eb 332f=30d4,30af,30eb 3330=30d4,30b3 3331=30d3,30eb
   3332=30d5,30a1,30e9,30c3,30c9 3333=30d5,30a3,30fc,30c8 3334=30d6,30c3,30b7,30a7,30eb
   3335=30d5,30e9,30f3 3336=30d8,30af,30bf,30fc,30eb 3337=30da,30bd 3338=30da,30cb,30d2
   3339=30d8,30eb,30c4 333a=30da,30f3,30b9 333b=30da,30fc,30b8 333c=30d9,30fc,30bf
   333d=30dd,30a4,30f3,30c8 333e=30dc,30eb,30c8 333f=30db,30f3 3340=30dd,30f3,30c9
   3341=30db,30fc,30eb 3342=30db,30fc,30f3 3343=30de,30a4,30af,30ed 3344=30de,30a4,30eb
   3345=30de,30c3,30cf 3346=30de,30eb,30af 3347=30de,30f3,30b7,30e7,30f3 3348=30df,30af,30ed,30f3
   3349=30df,30ea 334a=30df,30ea,30d0,30fc,30eb 334b=30e1,30ac 334c=30e1,30ac,30c8,30f3
   334d=30e1,30fc,30c8,30eb 334e=30e4,30fc,30c9 334f=30e4,30fc,30eb 3350=30e6,30a2,30f3
   3351=30ea,30c3,30c8,30eb 3352=30ea,30e9 3353=30eb,30d4,30fc 3354=30eb,30fc,30d6,30eb
   3355=30ec,30e0 3356=30ec,30f3,30c8,30b2,30f3 3357=30ef,30c3,30c8 3358=30,70b9 3359=31,70b9
   335a=32,70b9 335b=33,70b9 335c=34,70b9 335d=35,70b9 335e=36,70b9 335f=37,70b9 3360=38,70b9
   3361=39,70b9 3362=31,30,70b9 3363=31,31,70b9 3364=31,32,70b9 3365=31,33,70b9 3366=31,34,70b9
   3367=31,35,70b9 3368=31,36,70b9 3369=31,37,70b9 336a=31,38,70b9 336b=31,39,70b9 336c=32,30,70b9
   336d=32,31,70b9 336e=32,32,70b9 336f=32,33,70b9 3370=32,34,70b9 3371=68,70,61 3372=64,61
   3373=61,75 3374=62,61,72 3375=6f,76 3376=70,63 3377=64,6d 3378=64,6d,32 3379=64,6d,33 337a=69,75
   337b=5e73,6210 337c=662d,548c 337d=5927,6b63 337e=660e,6cbb 337f=682a,5f0f,4f1a,793e 3380=70,61
   3381=6e,61 3382=3bc,61 3383=6d,61 3384=6b,61 3385=6b,62 3386=6d,62 3387=67,62 3388=63,61,6c
   3389=6b,63,61,6c 338a=70,66 338b=6e,66 338c=3bc,66 338d=3bc,67 338e=6d,67 338f=6b,67 3390=68,7a
   3391=6b,68,7a 3392=6d,68,7a 3393=67,68,7a 3394=74,68,7a 3395=3bc,6c 3396=6d,6c 3397=64,6c
   3398=6b,6c 3399=66,6d 339a=6e,6d 339b=3bc,6d 339c=6d,6d 339d=63,6d 339e=6b,6d 339f=6d,6d,32
   33a0=63,6d,32 33a1=6d,32 33a2=6b,6d,32 33a3=6d,6d,33 33a4=63,6d,33 33a5=6d,33 33a6=6b,6d,33
   33a7=6d,2215,73 33a8=6d,2215,73,32 33a9=70,61 33aa=6b,70,61 33ab=6d,70,61 33ac=67,70,61
   33ad=72,61,64 33ae=72,61,64,2215,73 33af=72,61,64,2215,73,32 33b0=70,73 33b1=6e,73 33b2=3bc,73
   33b3=6d,73 33b4=70,76 33b5=6e,76 33b6=3bc,76 33b7=6d,76 33b8=6b,76 33b9=6d,76 33ba=70,77
   33bb=6e,77 33bc=3bc,77 33bd=6d,77 33be=6b,77 33bf=6d,77 33c0=6b,3c9 33c1=6d,3c9 33c2=61,2e,6d,2e
   33c3=62,71 33c4=63,63 33c5=63,64 33c6=63,2215,6b,67 33c7=63,6f,2e 33c8=64,62 33c9=67,79
   33ca=68,61 33cb=68,70 33cc=69,6e 33cd=6b,6b 33ce=6b,6d 33cf=6b,74 33d0=6c,6d 33d1=6c,6e
   33d2=6c,6f,67 33d3=6c,78 33d4=6d,62 33d5=6d,69,6c 33d6=6d,6f,6c 33d7=70,68 33d8=70,2e,6d,2e
   33d9=70,70,6d 33da=70,72 33db=73,72 33dc=73,76 33dd=77,62 33de=76,2215,6d 33df=61,2215,6d
   33e0=31,65e5 33e1=32,65e5 33e2=33,65e5 33e3=34,65e5 33e4=35,65e5 33e5=36,65e5 33e6=37,65e5
   33e7=38,65e5 33e8=39,65e5 33e9=31,30,65e5 33ea=31,31,65e5 33eb=31,32,65e5 33ec=31,33,65e5
   33ed=31,34,65e5 33ee=31,35,65e5 33ef=31,36,65e5 33f0=31,37,65e5 33f1=31,38,65e5 33f2=31,39,65e5
   33f3=32,30,65e5 33f4=32,31,65e5 33f5=32,32,65e5 33f6=32,33,65e5 33f7=32,34,65e5 33f8=32,35,65e5
   33f9=32,36,65e5 33fa=32,37,65e5 33fb=32,38,65e5 33fc=32,39,65e5 33fd=33,30,65e5 33fe=33,31,65e5
   33ff=67,61,6c a69c=44a a69d=44c a770=a76f a779=a77a a77b=a77c a77d=1d79 a78b=a78c a78d=265
   a790=a791 a792=a793 a7aa=266 a7ab=25c a7ac=261 a7ad=26c a7ae=26a a7b0=29e a7b1=287 a7b2=29d
   a7b3=ab53 a7c4=a794 a7c5=282 a7c6=1d8e a7c7=a7c8 a7c9=a7ca a7d0=a7d1 a7d6=a7d7 a7d8=a7d9 a7f2=63
   a7f3=66 a7f4=71 a7f5=a7f6 a7f8=127 a7f9=153 ab5c=a727 ab5d=ab37 ab5e=26b ab5f=ab52 ab69=28d
   f900=8c48 f901=66f4 f902=8eca f903=8cc8 f904=6ed1 f905=4e32 f906=53e5 f907=9f9c f908=9f9c
   f909=5951 f90a=91d1 f90b=5587 f90c=5948 f90d=61f6 f90e=7669 f90f=7f85 f910=863f f911=87ba
   f912=88f8 f913=908f f914=6a02 f915=6d1b f916=70d9 f917=73de f918=843d f919=916a f91a=99f1
   f91b=4e82 f91c=5375 f91d=6b04 f91e=721b f91f=862d f920=9e1e f921=5d50 f922=6feb f923=85cd
   f924=8964 f925=62c9 f926=81d8 f927=881f f928=5eca f929=6717 f92a=6d6a f92b=72fc f92c=90ce
   f92d=4f86 f92e=51b7 f92f=52de f930=64c4 f931=6ad3 f932=7210 f933=76e7 f934=8001 f935=8606
   f936=865c f937=8def f938=9732 f939=9b6f f93a=9dfa f93b=788c f93c=797f f93d=7da0 f93e=83c9
   f93f=9304 f940=9e7f f941=8ad6 f942=58df f943=5f04 f944=7c60 f945=807e f946=7262 f947=78ca
   f948=8cc2 f949=96f7 f94a=58d8 f94b=5c62 f94c=6a13 f94d=6dda f94e=6f0f f94f=7d2f f950=7e37
   f951=964b f952=52d2 f953=808b f954=51dc f955=51cc f956=7a1c f957=7dbe f958=83f1 f959=9675
   f95a=8b80 f95b=62cf f95c=6a02 f95d=8afe f95e=4e39 f95f=5be7 f960=6012 f961=7387 f962=7570
   f963=5317 f964=78fb f965=4fbf f966=5fa9 f967=4e0d f968=6ccc f969=6578 f96a=7d22 f96b=53c3
   f96c=585e f96d=7701 f96e=8449 f96f=8aaa f970=6bba f971=8fb0 f972=6c88 f973=62fe f974=82e5
   f975=63a0 f976=7565 f977=4eae f978=5169 f979=51c9 f97a=6881 f97b=7ce7 f97c=826f f97d=8ad2
   f97e=91cf f97f=52f5 f980=5442 f981=5973 f982=5eec f983=65c5 f984=6ffe f985=792a f986=95ad
   f987=9a6a f988=9e97 f989=9ece f98a=529b f98b=66c6 f98c=6b77 f98d=8f62 f98e=5e74 f98f=6190
   f990=6200 f991=649a f992=6f23 f993=7149 f994=7489 f995=79ca f996=7df4 f997=806f f998=8f26
   f999=84ee f99a=9023 f99b=934a f99c=5217 f99d=52a3 f99e=54bd f99f=70c8 f9a0=88c2 f9a1=8aaa
   f9a2=5ec9 f9a3=5ff5 f9a4=637b f9a5=6bae f9a6=7c3e f9a7=7375 f9a8=4ee4 f9a9=56f9 f9aa=5be7
   f9ab=5dba f9ac=601c f9ad=73b2 f9ae=7469 f9af=7f9a f9b0=8046 f9b1=9234 f9b2=96f6 f9b3=9748
   f9b4=9818 f9b5=4f8b f9b6=79ae f9b7=91b4 f9b8=96b8 f9b9=60e1 f9ba=4e86 f9bb=50da f9bc=5bee
   f9bd=5c3f f9be=6599 f9bf=6a02 f9c0=71ce f9c1=7642 f9c2=84fc f9c3=907c f9c4=9f8d f9c5=6688
   f9c6=962e f9c7=5289 f9c8=677b f9c9=67f3 f9ca=6d41 f9cb=6e9c f9cc=7409 f9cd=7559 f9ce=786b
   f9cf=7d10 f9d0=985e f9d1=516d f9d2=622e f9d3=9678 f9d4=502b f9d5=5d19 f9d6=6dea f9d7=8f2a
   f9d8=5f8b f9d9=6144 f9da=6817 f9db=7387 f9dc=9686 f9dd=5229 f9de=540f f9df=5c65 f9e0=6613
   f9e1=674e f9e2=68a8 f9e3=6ce5 f9e4=7406 f9e5=75e2 f9e6=7f79 f9e7=88cf f9e8=88e1 f9e9=91cc
   f9ea=96e2 f9eb=533f f9ec=6eba f9ed=541d f9ee=71d0 f9ef=7498 f9f0=85fa f9f1=96a3 f9f2=9c57
   f9f3=9e9f f9f4=6797 f9f5=6dcb f9f6=81e8 f9f7=7acb f9f8=7b20 f9f9=7c92 f9fa=72c0 f9fb=7099
   f9fc=8b58 f9fd=4ec0 f9fe=8336 f9ff=523a fa00=5207 fa01=5ea6 fa02=62d3 fa03=7cd6 fa04=5b85
   fa05=6d1e fa06=66b4 fa07=8f3b fa08=884c fa09=964d fa0a=898b fa0b=5ed3 fa0c=5140 fa0d=55c0
   fa10=585a fa12=6674 fa15=51de fa16=732a fa17=76ca fa18=793c fa19=795e fa1a=7965 fa1b=798f
   fa1c=9756 fa1d=7cbe fa1e=7fbd fa20=8612 fa22=8af8 fa25=9038 fa26=90fd fa2a=98ef fa2b=98fc
   fa2c=9928 fa2d=9db4 fa2e=90de fa2f=96b7 fa30=4fae fa31=50e7 fa32=514d fa33=52c9 fa34=52e4
   fa35=5351 fa36=559d fa37=5606 fa38=5668 fa39=5840 fa3a=58a8 fa3b=5c64 fa3c=5c6e fa3d=6094
   fa3e=6168 fa3f=618e fa40=61f2 fa41=654f fa42=65e2 fa43=6691 fa44=6885 fa45=6d77 fa46=6e1a
   fa47=6f22 fa48=716e fa49=722b fa4a=7422 fa4b=7891 fa4c=793e fa4d=7949 fa4e=7948 fa4f=7950
   fa50=7956 fa51=795d fa52=798d fa53=798e fa54=7a40 fa55=7a81 fa56=7bc0 fa57=7df4 fa58=7e09
   fa59=7e41 fa5a=7f72 fa5b=8005 fa5c=81ed fa5d=8279 fa5e=8279 fa5f=8457 fa60=8910 fa61=8996
   fa62=8b01 fa63=8b39 fa64=8cd3 fa65=8d08 fa66=8fb6 fa67=9038 fa68=96e3 fa69=97ff fa6a=983b
   fa6b=6075 fa6c=242ee fa6d=8218 fa70=4e26 fa71=51b5 fa72=5168 fa73=4f80 fa74=5145 fa75=5180
   fa76=52c7 fa77=52fa fa78=559d fa79=5555 fa7a=5599 fa7b=55e2 fa7c=585a fa7d=58b3 fa7e=5944
   fa7f=5954 fa80=5a62 fa81=5b28 fa82=5ed2 fa83=5ed9 fa84=5f69 fa85=5fad fa86=60d8 fa87=614e
   fa88=6108 fa89=618e fa8a=6160 fa8b=61f2 fa8c=6234 fa8d=63c4 fa8e=641c fa8f=6452 fa90=6556
   fa91=6674 fa92=6717 fa93=671b fa94=6756 fa95=6b79 fa96=6bba fa97=6d41 fa98=6edb fa99=6ecb
   fa9a=6f22 fa9b=701e fa9c=716e fa9d=77a7 fa9e=7235 fa9f=72af faa0=732a faa1=7471 faa2=7506
   faa3=753b faa4=761d faa5=761f faa6=76ca faa7=76db faa8=76f4 faa9=774a faaa=7740 faab=78cc
   faac=7ab1 faad=7bc0 faae=7c7b faaf=7d5b fab0=7df4 fab1=7f3e fab2=8005 fab3=8352 fab4=83ef
   fab5=8779 fab6=8941 fab7=8986 fab8=8996 fab9=8abf faba=8af8 fabb=8acb fabc=8b01 fabd=8afe
   fabe=8aed fabf=8b39 fac0=8b8a fac1=8d08 fac2=8f38 fac3=9072 fac4=9199 fac5=9276 fac6=967c
   fac7=96e3 fac8=9756 fac9=97db faca=97ff facb=980b facc=983b facd=9b12 face=9f9c facf=2284a
   fad0=22844 fad1=233d5 fad2=3b9d fad3=4018 fad4=4039 fad5=25249 fad6=25cd0 fad7=27ed3 fad8=9f43
   fad9=9f8e fb00=66,66 fb01=66,69 fb02=66,6c fb03=66,66,69 fb04=66,66,6c fb05=73,74 fb06=73,74
   fb13=574,576 fb14=574,565 fb15=574,56b fb16=57e,576 fb17=574,56d fb1d=5d9,5b4 fb1f=5f2,5b7
   fb20=5e2 fb21=5d0 fb22=5d3 fb23=5d4 fb27=5e8 fb28=5ea fb29=2b fb2a=5e9,5c1 fb2b=5e9,5c2
   fb2c=5e9,5bc,5c1 fb2d=5e9,5bc,5c2 fb2e=5d0,5b7 fb2f=5d0,5b8 fb30=5d0,5bc fb31=5d1,5bc
   fb32=5d2,5bc fb33=5d3,5bc fb34=5d4,5bc fb35=5d5,5bc fb36=5d6,5bc fb38=5d8,5bc fb39=5d9,5bc
   fb3a=5da,5bc fb3b=5db,5bc fb3c=5dc,5bc fb3e=5de,5bc fb40=5e0,5bc fb41=5e1,5bc fb43=5e3,5bc
   fb44=5e4,5bc fb46=5e6,5bc fb47=5e7,5bc fb48=5e8,5bc fb49=5e9,5bc fb4a=5ea,5bc fb4b=5d5,5b9
   fb4c=5d1,5bf fb4d=5db,5bf fb4e=5e4,5bf fb4f=5d0,5dc fb50=671 fb51=671 fb52=67b fb53=67b fb54=67b
   fb55=67b fb56=67e fb57=67e fb58=67e fb59=67e fb5a=680 fb5b=680 fb5c=680 fb5d=680 fb5e=67a
   fb5f=67a fb60=67a fb61=67a fb62=67f fb63=67f fb64=67f fb65=67f fb66=679 fb67=679 fb68=679
   fb69=679 fb6a=6a4 fb6b=6a4 fb6c=6a4 fb6d=6a4 fb6e=6a6 fb6f=6a6 fb70=6a6 fb71=6a6 fb72=684
   fb73=684 fb74=684 fb75=684 fb76=683 fb77=683 fb78=683 fb79=683 fb7a=686 fb7b=686 fb7c=686
   fb7d=686 fb7e=687 fb7f=687 fb80=687 fb81=687 fb82=68d fb83=68d fb84=68c fb85=68c fb86=68e
   fb87=68e fb88=688 fb89=688 fb8a=698 fb8b=698 fb8c=691 fb8d=691 fb8e=6a9 fb8f=6a9 fb90=6a9
   fb91=6a9 fb92=6af fb93=6af fb94=6af fb95=6af fb96=6b3 fb97=6b3 fb98=6b3 fb99=6b3 fb9a=6b1
   fb9b=6b1 fb9c=6b1 fb9d=6b1 fb9e=6ba fb9f=6ba fba0=6bb fba1=6bb fba2=6bb fba3=6bb fba4=6c0
   fba5=6c0 fba6=6c1 fba7=6c1 fba8=6c1 fba9=6c1 fbaa=6be fbab=6be fbac=6be fbad=6be fbae=6d2
   fbaf=6d2 fbb0=6d3 fbb1=6d3 fbd3=6ad fbd4=6ad fbd5=6ad fbd6=6ad fbd7=6c7 fbd8=6c7 fbd9=6c6
   fbda=6c6 fbdb=6c8 fbdc=6c8 fbdd=6c7,674 fbde=6cb fbdf=6cb fbe0=6c5 fbe1=6c5 fbe2=6c9 fbe3=6c9
   fbe4=6d0 fbe5=6d0 fbe6=6d0 fbe7=6d0 fbe8=649 fbe9=649 fbea=626,627 fbeb=626,627 fbec=626,6d5
   fbed=626,6d5 fbee=626,648 fbef=626,648 fbf0=626,6c7 fbf1=626,6c7 fbf2=626,6c6 fbf3=626,6c6
   fbf4=626,6c8 fbf5=626,6c8 fbf6=626,6d0 fbf7=626,6d0 fbf8=626,6d0 fbf9=626,649 fbfa=626,649
   fbfb=626,649 fbfc=6cc fbfd=6cc fbfe=6cc fbff=6cc fc00=626,62c fc01=626,62d fc02=626,645
   fc03=626,649 fc04=626,64a fc05=628,62c fc06=628,62d fc07=628,62e fc08=628,645 fc09=628,649
   fc0a=628,64a fc0b=62a,62c fc0c=62a,62d fc0d=62a,62e fc0e=62a,645 fc0f=62a,649 fc10=62a,64a
   fc11=62b,62c fc12=62b,645 fc13=62b,649 fc14=62b,64a fc15=62c,62d fc16=62c,645 fc17=62d,62c
   fc18=62d,645 fc19=62e,62c fc1a=62e,62d fc1b=62e,645 fc1c=633,62c fc1d=633,62d fc1e=633,62e
   fc1f=633,645 fc20=635,62d fc21=635,645 fc22=636,62c fc23=636,62d fc24=636,62e fc25=636,645
   fc26=637,62d fc27=637,645 fc28=638,645 fc29=639,62c fc2a=639,645 fc2b=63a,62c fc2c=63a,645
   fc2d=641,62c fc2e=641,62d fc2f=641,62e fc30=641,645 fc31=641,649 fc32=641,64a fc33=642,62d
   fc34=642,645 fc35=642,649 fc36=642,64a fc37=643,627 fc38=643,62c fc39=643,62d fc3a=643,62e
   fc3b=643,644 fc3c=643,645 fc3d=643,649 fc3e=643,64a fc3f=644,62c fc40=644,62d fc41=644,62e
   fc42=644,645 fc43=644,649 fc44=644,64a fc45=645,62c fc46=645,62d fc47=645,62e fc48=645,645
   fc49=645,649 fc4a=645,64a fc4b=646,62c fc4c=646,62d fc4d=646,62e fc4e=646,645 fc4f=646,649
   fc50=646,64a fc51=647,62c fc52=647,645 fc53=647,649 fc54=647,64a fc55=64a,62c fc56=64a,62d
   fc57=64a,62e fc58=64a,645 fc59=64a,649 fc5a=64a,64a fc5b=630,670 fc5c=631,670 fc5d=649,670
   fc5e=20,64c,651 fc5f=20,64d,651 fc60=20,64e,651 fc61=20,64f,651 fc62=20,650,651 fc63=20,651,670
   fc64=626,631 fc65=626,632 fc66=626,645 fc67=626,646 fc68=626,649 fc69=626,64a fc6a=628,631
   fc6b=628,632 fc6c=628,645 fc6d=628,646 fc6e=628,649 fc6f=628,64a fc70=62a,631 fc71=62a,632
   fc72=62a,645 fc73=62a,646 fc74=62a,649 fc75=62a,64a fc76=62b,631 fc77=62b,632 fc78=62b,645
   fc79=62b,646 fc7a=62b,649 fc7b=62b,64a fc7c=641,649 fc7d=641,64a fc7e=642,649 fc7f=642,64a
   fc80=643,627 fc81=643,644 fc82=643,645 fc83=643,649 fc84=643,64a fc85=644,645 fc86=644,649
   fc87=644,64a fc88=645,627 fc89=645,645 fc8a=646,631 fc8b=646,632 fc8c=646,645 fc8d=646,646
   fc8e=646,649 fc8f=646,64a fc90=649,670 fc91=64a,631 fc92=64a,632 fc93=64a,645 fc94=64a,646
   fc95=64a,649 fc96=64a,64a fc97=626,62c fc98=626,62d fc99=626,62e fc9a=626,645 fc9b=626,647
   fc9c=628,62c fc9d=628,62d fc9e=628,62e fc9f=628,645 fca0=628,647 fca1=62a,62c fca2=62a,62d
   fca3=62a,62e fca4=62a,645 fca5=62a,647 fca6=62b,645 fca7=62c,62d fca8=62c,645 fca9=62d,62c
   fcaa=62d,645 fcab=62e,62c fcac=62e,645 fcad=633,62c fcae=633,62d fcaf=633,62e fcb0=633,645
   fcb1=635,62d fcb2=635,62e fcb3=635,645 fcb4=636,62c fcb5=636,62d fcb6=636,62e fcb7=636,645
   fcb8=637,62d fcb9=638,645 fcba=639,62c fcbb=639,645 fcbc=63a,62c fcbd=63a,645 fcbe=641,62c
   fcbf=641,62d fcc0=641,62e fcc1=641,645 fcc2=642,62d fcc3=642,645 fcc4=643,62c fcc5=643,62d
   fcc6=643,62e fcc7=643,644 fcc8=643,645 fcc9=644,62c fcca=644,62d fccb=644,62e fccc=644,645
   fccd=644,647 fcce=645,62c fccf=645,62d fcd0=645,62e fcd1=645,645 fcd2=646,62c fcd3=646,62d
   fcd4=646,62e fcd5=646,645 fcd6=646,647 fcd7=647,62c fcd8=647,645 fcd9=647,670 fcda=64a,62c
   fcdb=64a,62d fcdc=64a,62e fcdd=64a,645 fcde=64a,647 fcdf=626,645 fce0=626,647 fce1=628,645
   fce2=628,647 fce3=62a,645 fce4=62a,647 fce5=62b,645 fce6=62b,647 fce7=633,645 fce8=633,647
   fce9=634,645 fcea=634,647 fceb=643,644 fcec=643,645 fced=644,645 fcee=646,645 fcef=646,647
   fcf0=64a,645 fcf1=64a,647 fcf2=640,64e,651 fcf3=640,64f,651 fcf4=640,650,651 fcf5=637,649
   fcf6=637,64a fcf7=639,649 fcf8=639,64a fcf9=63a,649 fcfa=63a,64a fcfb=633,649 fcfc=633,64a
   fcfd=634,649 fcfe=634,64a fcff=62d,649 fd00=62d,64a fd01=62c,649 fd02=62c,64a fd03=62e,649
   fd04=62e,64a fd05=635,649 fd06=635,64a fd07=636,649 fd08=636,64a fd09=634,62c fd0a=634,62d
   fd0b=634,62e fd0c=634,645 fd0d=634,631 fd0e=633,631 fd0f=635,631 fd10=636,631 fd11=637,649
   fd12=637,64a fd13=639,649 fd14=639,64a fd15=63a,649 fd16=63a,64a fd17=633,649 fd18=633,64a
   fd19=634,649 fd1a=634,64a fd1b=62d,649 fd1c=62d,64a fd1d=62c,649 fd1e=62c,64a fd1f=62e,649
   fd20=62e,64a fd21=635,649 fd22=635,64a fd23=636,649 fd24=636,64a fd25=634,62c fd26=634,62d
   fd27=634,62e fd28=634,645 fd29=634,631 fd2a=633,631 fd2b=635,631 fd2c=636,631 fd2d=634,62c
   fd2e=634,62d fd2f=634,62e fd30=634,645 fd31=633,647 fd32=634,647 fd33=637,645 fd34=633,62c
   fd35=633,62d fd36=633,62e fd37=634,62c fd38=634,62d fd39=634,62e fd3a=637,645 fd3b=638,645
   fd3c=627,64b fd3d=627,64b fd50=62a,62c,645 fd51=62a,62d,62c fd52=62a,62d,62c fd53=62a,62d,645
   fd54=62a,62e,645 fd55=62a,645,62c fd56=62a,645,62d fd57=62a,645,62e fd58=62c,645,62d
   fd59=62c,645,62d fd5a=62d,645,64a fd5b=62d,645,649 fd5c=633,62d,62c fd5d=633,62c,62d
   fd5e=633,62c,649 fd5f=633,645,62d fd60=633,645,62d fd61=633,645,62c fd62=633,645,645
   fd63=633,645,645 fd64=635,62d,62d fd65=635,62d,62d fd66=635,645,645 fd67=634,62d,645
   fd68=634,62d,645 fd69=634,62c,64a fd6a=634,645,62e fd6b=634,645,62e fd6c=634,645,645
   fd6d=634,645,645 fd6e=636,62d,649 fd6f=636,62e,645 fd70=636,62e,645 fd71=637,645,62d
   fd72=637,645,62d fd73=637,645,645 fd74=637,645,64a fd75=639,62c,645 fd76=639,645,645
   fd77=639,645,645 fd78=639,645,649 fd79=63a,645,645 fd7a=63a,645,64a fd7b=63a,645,649
   fd7c=641,62e,645 fd7d=641,62e,645 fd7e=642,645,62d fd7f=642,645,645 fd80=644,62d,645
   fd81=644,62d,64a fd82=644,62d,649 fd83=644,62c,62c fd84=644,62c,62c fd85=644,62e,645
   fd86=644,62e,645 fd87=644,645,62d fd88=644,645,62d fd89=645,62d,62c fd8a=645,62d,645
   fd8b=645,62d,64a fd8c=645,62c,62d fd8d=645,62c,645 fd8e=645,62e,62c fd8f=645,62e,645
   fd92=645,62c,62e fd93=647,645,62c fd94=647,645,645 fd95=646,62d,645 fd96=646,62d,649
   fd97=646,62c,645 fd98=646,62c,645 fd99=646,62c,649 fd9a=646,645,64a fd9b=646,645,649
   fd9c=64a,645,645 fd9d=64a,645,645 fd9e=628,62e,64a fd9f=62a,62c,64a fda0=62a,62c,649
   fda1=62a,62e,64a fda2=62a,62e,649 fda3=62a,645,64a fda4=62a,645,649 fda5=62c,645,64a
   fda6=62c,62d,649 fda7=62c,645,649 fda8=633,62e,649 fda9=635,62d,64a fdaa=634,62d,64a
   fdab=636,62d,64a fdac=644,62c,64a fdad=644,645,64a fdae=64a,62d,64a fdaf=64a,62c,64a
   fdb0=64a,645,64a fdb1=645,645,64a fdb2=642,645,64a fdb3=646,62d,64a fdb4=642,645,62d
   fdb5=644,62d,645 fdb6=639,645,64a fdb7=643,645,64a fdb8=646,62c,62d fdb9=645,62e,64a
   fdba=644,62c,645 fdbb=643,645,645 fdbc=644,62c,645 fdbd=646,62c,62d fdbe=62c,62d,64a
   fdbf=62d,62c,64a fdc0=645,62c,64a fdc1=641,645,64a fdc2=628,62d,64a fdc3=643,645,645
   fdc4=639,62c,645 fdc5=635,645,645 fdc6=633,62e,64a fdc7=646,62c,64a fdf0=635,644,6d2
   fdf1=642,644,6d2 fdf2=627,644,644,647 fdf3=627,643,628,631 fdf4=645,62d,645,62f
   fdf5=635,644,639,645 fdf6=631,633,648,644 fdf7=639,644,64a,647 fdf8=648,633,644,645
   fdf9=635,644,649 fdfa=635,644,649,20,627,644,644,647,20,639,644,64a,647,20,648,633,644,645
   fdfb=62c,644,20,62c,644,627,644,647 fdfc=631,6cc,627,644 fe10=2c fe11=3001 fe12=2e fe13=3a
   fe14=3b fe15=21 fe16=3f fe17=3016 fe18=3017 fe19=2e,2e,2e fe30=2e,2e fe31=2014 fe32=2013 fe33=5f
   fe34=5f fe35=28 fe36=29 fe37=7b fe38=7d fe39=3014 fe3a=3015 fe3b=3010 fe3c=3011 fe3d=300a
   fe3e=300b fe3f=3008 fe40=3009 fe47=5b fe48=5d fe49=20,305 fe4a=20,305 fe4b=20,305 fe4c=20,305
   fe4d=5f fe4e=5f fe4f=5f fe50=2c fe51=3001 fe52=2e fe54=3b fe55=3a fe56=3f fe57=21 fe58=2014
   fe59=28 fe5a=29 fe5b=7b fe5c=7d fe5d=3014 fe5e=3015 fe5f=23 fe60=26 fe61=2a fe62=2b fe63=2d
   fe64=3c fe65=3e fe66=3d fe68=5c fe69=24 fe6a=25 fe6b=40 fe70=20,64b fe71=640,64b fe72=20,64c
   fe74=20,64d fe76=20,64e fe77=640,64e fe78=20,64f fe79=640,64f fe7a=20,650 fe7b=640,650
   fe7c=20,651 fe7d=640,651 fe7e=20,652 fe7f=640,652 fe80=621 fe81=622 fe82=622 fe83=623 fe84=623
   fe85=624 fe86=624 fe87=625 fe88=625 fe89=626 fe8a=626 fe8b=626 fe8c=626 fe8d=627 fe8e=627
   fe8f=628 fe90=628 fe91=628 fe92=628 fe93=629 fe94=629 fe95=62a fe96=62a fe97=62a fe98=62a
   fe99=62b fe9a=62b fe9b=62b fe9c=62b fe9d=62c fe9e=62c fe9f=62c fea0=62c fea1=62d fea2=62d
   fea3=62d fea4=62d fea5=62e fea6=62e fea7=62e fea8=62e fea9=62f feaa=62f feab=630 feac=630
   fead=631 feae=631 feaf=632 feb0=632 feb1=633 feb2=633 feb3=633 feb4=633 feb5=634 feb6=634
   feb7=634 feb8=634 feb9=635 feba=635 febb=635 febc=635 febd=636 febe=636 febf=636 fec0=636
   fec1=637 fec2=637 fec3=637 fec4=637 fec5=638 fec6=638 fec7=638 fec8=638 fec9=639 feca=639
   fecb=639 fecc=639 fecd=63a fece=63a fecf=63a fed0=63a fed1=641 fed2=641 fed3=641 fed4=641
   fed5=642 fed6=642 fed7=642 fed8=642 fed9=643 feda=643 fedb=643 fedc=643 fedd=644 fede=644
   fedf=644 fee0=644 fee1=645 fee2=645 fee3=645 fee4=645 fee5=646 fee6=646 fee7=646 fee8=646
   fee9=647 feea=647 feeb=647 feec=647 feed=648 feee=648 feef=649 fef0=649 fef1=64a fef2=64a
   fef3=64a fef4=64a fef5=644,622 fef6=644,622 fef7=644,623 fef8=644,623 fef9=644,625 fefa=644,625
   fefb=644,627 fefc=644,627 ffe3=20,304 1d15e=1d157,1d165 1d15f=1d158,1d165
   1d160=1d158,1d165,1d16e 1d161=1d158,1d165,1d16f 1d162=1d158,1d165,1d170 1d163=1d158,1d165,1d171
   1d164=1d158,1d165,1d172 1d1bb=1d1b9,1d165 1d1bc=1d1ba,1d165 1d1bd=1d1b9,1d165,1d16e
   1d1be=1d1ba,1d165,1d16e 1d1bf=1d1b9,1d165,1d16f 1d1c0=1d1ba,1d165,1d16f 1ee00=627 1ee01=628
   1ee02=62c 1ee03=62f 1ee05=648 1ee06=632 1ee07=62d 1ee08=637 1ee09=64a 1ee0e=633 1ee0f=639
   1ee10=641 1ee11=635 1ee12=642 1ee13=631 1ee14=634 1ee15=62a 1ee16=62b 1ee17=62e 1ee18=630
   1ee19=636 1ee1a=638 1ee1b=63a 1ee1c=66e 1ee1d=6ba 1ee1e=6a1 1ee1f=66f 1ee21=628 1ee22=62c
   1ee24=647 1ee27=62d 1ee29=64a 1ee2e=633 1ee2f=639 1ee30=641 1ee31=635 1ee32=642 1ee34=634
   1ee35=62a 1ee36=62b 1ee37=62e 1ee39=636 1ee3b=63a 1ee42=62c 1ee47=62d 1ee49=64a 1ee4b=644
   1ee4d=646 1ee4e=633 1ee4f=639 1ee51=635 1ee52=642 1ee54=634 1ee57=62e 1ee59=636 1ee5b=63a
   1ee5d=6ba 1ee5f=66f 1ee61=628 1ee62=62c 1ee64=647 1ee67=62d 1ee68=637 1ee69=64a 1ee6a=643
   1ee6c=645 1ee6d=646 1ee6e=633 1ee6f=639 1ee70=641 1ee71=635 1ee72=642 1ee74=634 1ee75=62a
   1ee76=62b 1ee77=62e 1ee79=636 1ee7a=638 1ee7b=63a 1ee7c=66e 1ee7e=6a1 1ee80=627 1ee81=628
   1ee82=62c 1ee83=62f 1ee84=647 1ee85=648 1ee86=632 1ee87=62d 1ee88=637 1ee89=64a 1ee8e=633
   1ee8f=639 1ee90=641 1ee91=635 1ee92=642 1ee93=631 1ee94=634 1ee95=62a 1ee96=62b 1ee97=62e
   1ee98=630 1ee99=636 1ee9a=638 1ee9b=63a 1eea1=628 1eea2=62c 1eea3=62f 1eea5=648 1eea6=632
   1eea7=62d 1eea8=637 1eea9=64a 1eeae=633 1eeaf=639 1eeb0=641 1eeb1=635 1eeb2=642 1eeb3=631
   1eeb4=634 1eeb5=62a 1eeb6=62b 1eeb7=62e 1eeb8=630 1eeb9=636 1eeba=638 1eebb=63a 1f100=30,2e
   1f101=30,2c 1f102=31,2c 1f103=32,2c 1f104=33,2c 1f105=34,2c 1f106=35,2c 1f107=36,2c 1f108=37,2c
   1f109=38,2c 1f10a=39,2c 1f110=28,61,29 1f111=28,62,29 1f112=28,63,29 1f113=28,64,29
   1f114=28,65,29 1f115=28,66,29 1f116=28,67,29 1f117=28,68,29 1f118=28,69,29 1f119=28,6a,29
   1f11a=28,6b,29 1f11b=28,6c,29 1f11c=28,6d,29 1f11d=28,6e,29 1f11e=28,6f,29 1f11f=28,70,29
   1f120=28,71,29 1f121=28,72,29 1f122=28,73,29 1f123=28,74,29 1f124=28,75,29 1f125=28,76,29
   1f126=28,77,29 1f127=28,78,29 1f128=28,79,29 1f129=28,7a,29 1f12a=3014,73,3015 1f12b=63 1f12c=72
   1f12d=63,64 1f12e=77,7a 1f14a=68,76 1f14b=6d,76 1f14c=73,64 1f14d=73,73 1f14e=70,70,76
   1f14f=77,63 1f16a=6d,63 1f16b=6d,64 1f16c=6d,72 1f190=64,6a 1f200=307b,304b 1f201=30b3,30b3
   1f202=30b5 1f210=624b 1f211=5b57 1f212=53cc 1f213=30c7 1f214=4e8c 1f215=591a 1f216=89e3
   1f217=5929 1f218=4ea4 1f219=6620 1f21a=7121 1f21b=6599 1f21c=524d 1f21d=5f8c 1f21e=518d
   1f21f=65b0 1f220=521d 1f221=7d42 1f222=751f 1f223=8ca9 1f224=58f0 1f225=5439 1f226=6f14
   1f227=6295 1f228=6355 1f229=4e00 1f22a=4e09 1f22b=904a 1f22c=5de6 1f22d=4e2d 1f22e=53f3
   1f22f=6307 1f230=8d70 1f231=6253 1f232=7981 1f233=7a7a 1f234=5408 1f235=6e80 1f236=6709
   1f237=6708 1f238=7533 1f239=5272 1f23a=55b6 1f23b=914d 1f240=3014,672c,3015 1f241=3014,4e09,3015
   1f242=3014,4e8c,3015 1f243=3014,5b89,3015 1f244=3014,70b9,3015 1f245=3014,6253,3015
   1f246=3014,76d7,3015 1f247=3014,52dd,3015 1f248=3014,6557,3015 1f250=5f97 1f251=53ef 2f800=4e3d
   2f801=4e38 2f802=4e41 2f803=20122 2f804=4f60 2f805=4fae 2f806=4fbb 2f807=5002 2f808=507a
   2f809=5099 2f80a=50e7 2f80b=50cf 2f80c=349e 2f80d=2063a 2f80e=514d 2f80f=5154 2f810=5164
   2f811=5177 2f812=2051c 2f813=34b9 2f814=5167 2f815=518d 2f816=2054b 2f817=5197 2f818=51a4
   2f819=4ecc 2f81a=51ac 2f81b=51b5 2f81c=291df 2f81d=51f5 2f81e=5203 2f81f=34df 2f820=523b
   2f821=5246 2f822=5272 2f823=5277 2f824=3515 2f825=52c7 2f826=52c9 2f827=52e4 2f828=52fa
   2f829=5305 2f82a=5306 2f82b=5317 2f82c=5349 2f82d=5351 2f82e=535a 2f82f=5373 2f830=537d
   2f831=537f 2f832=537f 2f833=537f 2f834=20a2c 2f835=7070 2f836=53ca 2f837=53df 2f838=20b63
   2f839=53eb 2f83a=53f1 2f83b=5406 2f83c=549e 2f83d=5438 2f83e=5448 2f83f=5468 2f840=54a2
   2f841=54f6 2f842=5510 2f843=5553 2f844=5563 2f845=5584 2f846=5584 2f847=5599 2f848=55ab
   2f849=55b3 2f84a=55c2 2f84b=5716 2f84c=5606 2f84d=5717 2f84e=5651 2f84f=5674 2f850=5207
   2f851=58ee 2f852=57ce 2f853=57f4 2f854=580d 2f855=578b 2f856=5832 2f857=5831 2f858=58ac
   2f859=214e4 2f85a=58f2 2f85b=58f7 2f85c=5906 2f85d=591a 2f85e=5922 2f85f=5962 2f860=216a8
   2f861=216ea 2f862=59ec 2f863=5a1b 2f864=5a27 2f865=59d8 2f866=5a66 2f867=36ee 2f868=36fc
   2f869=5b08 2f86a=5b3e 2f86b=5b3e 2f86c=219c8 2f86d=5bc3 2f86e=5bd8 2f86f=5be7 2f870=5bf3
   2f871=21b18 2f872=5bff 2f873=5c06 2f874=5f53 2f875=5c22 2f876=3781 2f877=5c60 2f878=5c6e
   2f879=5cc0 2f87a=5c8d 2f87b=21de4 2f87c=5d43 2f87d=21de6 2f87e=5d6e 2f87f=5d6b 2f880=5d7c
   2f881=5de1 2f882=5de2 2f883=382f 2f884=5dfd 2f885=5e28 2f886=5e3d 2f887=5e69 2f888=3862
   2f889=22183 2f88a=387c 2f88b=5eb0 2f88c=5eb3 2f88d=5eb6 2f88e=5eca 2f88f=2a392 2f890=5efe
   2f891=22331 2f892=22331 2f893=8201 2f894=5f22 2f895=5f22 2f896=38c7 2f897=232b8 2f898=261da
   2f899=5f62 2f89a=5f6b 2f89b=38e3 2f89c=5f9a 2f89d=5fcd 2f89e=5fd7 2f89f=5ff9 2f8a0=6081
   2f8a1=393a 2f8a2=391c 2f8a3=6094 2f8a4=226d4 2f8a5=60c7 2f8a6=6148 2f8a7=614c 2f8a8=614e
   2f8a9=614c 2f8aa=617a 2f8ab=618e 2f8ac=61b2 2f8ad=61a4 2f8ae=61af 2f8af=61de 2f8b0=61f2
   2f8b1=61f6 2f8b2=6210 2f8b3=621b 2f8b4=625d 2f8b5=62b1 2f8b6=62d4 2f8b7=6350 2f8b8=22b0c
   2f8b9=633d 2f8ba=62fc 2f8bb=6368 2f8bc=6383 2f8bd=63e4 2f8be=22bf1 2f8bf=6422 2f8c0=63c5
   2f8c1=63a9 2f8c2=3a2e 2f8c3=6469 2f8c4=647e 2f8c5=649d 2f8c6=6477 2f8c7=3a6c 2f8c8=654f
   2f8c9=656c 2f8ca=2300a 2f8cb=65e3 2f8cc=66f8 2f8cd=6649 2f8ce=3b19 2f8cf=6691 2f8d0=3b08
   2f8d1=3ae4 2f8d2=5192 2f8d3=5195 2f8d4=6700 2f8d5=669c 2f8d6=80ad 2f8d7=43d9 2f8d8=6717
   2f8d9=671b 2f8da=6721 2f8db=675e 2f8dc=6753 2f8dd=233c3 2f8de=3b49 2f8df=67fa 2f8e0=6785
   2f8e1=6852 2f8e2=6885 2f8e3=2346d 2f8e4=688e 2f8e5=681f 2f8e6=6914 2f8e7=3b9d 2f8e8=6942
   2f8e9=69a3 2f8ea=69ea 2f8eb=6aa8 2f8ec=236a3 2f8ed=6adb 2f8ee=3c18 2f8ef=6b21 2f8f0=238a7
   2f8f1=6b54 2f8f2=3c4e 2f8f3=6b72 2f8f4=6b9f 2f8f5=6bba 2f8f6=6bbb 2f8f7=23a8d 2f8f8=21d0b
   2f8f9=23afa 2f8fa=6c4e 2f8fb=23cbc 2f8fc=6cbf 2f8fd=6ccd 2f8fe=6c67 2f8ff=6d16 2f900=6d3e
   2f901=6d77 2f902=6d41 2f903=6d69 2f904=6d78 2f905=6d85 2f906=23d1e 2f907=6d34 2f908=6e2f
   2f909=6e6e 2f90a=3d33 2f90b=6ecb 2f90c=6ec7 2f90d=23ed1 2f90e=6df9 2f90f=6f6e 2f910=23f5e
   2f911=23f8e 2f912=6fc6 2f913=7039 2f914=701e 2f915=701b 2f916=3d96 2f917=704a 2f918=707d
   2f919=7077 2f91a=70ad 2f91b=20525 2f91c=7145 2f91d=24263 2f91e=719c 2f91f=243ab 2f920=7228
   2f921=7235 2f922=7250 2f923=24608 2f924=7280 2f925=7295 2f926=24735 2f927=24814 2f928=737a
   2f929=738b 2f92a=3eac 2f92b=73a5 2f92c=3eb8 2f92d=3eb8 2f92e=7447 2f92f=745c 2f930=7471
   2f931=7485 2f932=74ca 2f933=3f1b 2f934=7524 2f935=24c36 2f936=753e 2f937=24c92 2f938=7570
   2f939=2219f 2f93a=7610 2f93b=24fa1 2f93c=24fb8 2f93d=25044 2f93e=3ffc 2f93f=4008 2f940=76f4
   2f941=250f3 2f942=250f2 2f943=25119 2f944=25133 2f945=771e 2f946=771f 2f947=771f 2f948=774a
   2f949=4039 2f94a=778b 2f94b=4046 2f94c=4096 2f94d=2541d 2f94e=784e 2f94f=788c 2f950=78cc
   2f951=40e3 2f952=25626 2f953=7956 2f954=2569a 2f955=256c5 2f956=798f 2f957=79eb 2f958=412f
   2f959=7a40 2f95a=7a4a 2f95b=7a4f 2f95c=2597c 2f95d=25aa7 2f95e=25aa7 2f95f=7aee 2f960=4202
   2f961=25bab 2f962=7bc6 2f963=7bc9 2f964=4227 2f965=25c80 2f966=7cd2 2f967=42a0 2f968=7ce8
   2f969=7ce3 2f96a=7d00 2f96b=25f86 2f96c=7d63 2f96d=4301 2f96e=7dc7 2f96f=7e02 2f970=7e45
   2f971=4334 2f972=26228 2f973=26247 2f974=4359 2f975=262d9 2f976=7f7a 2f977=2633e 2f978=7f95
   2f979=7ffa 2f97a=8005 2f97b=264da 2f97c=26523 2f97d=8060 2f97e=265a8 2f97f=8070 2f980=2335f
   2f981=43d5 2f982=80b2 2f983=8103 2f984=440b 2f985=813e 2f986=5ab5 2f987=267a7 2f988=267b5
   2f989=23393 2f98a=2339c 2f98b=8201 2f98c=8204 2f98d=8f9e 2f98e=446b 2f98f=8291 2f990=828b
   2f991=829d 2f992=52b3 2f993=82b1 2f994=82b3 2f995=82bd 2f996=82e6 2f997=26b3c 2f998=82e5
   2f999=831d 2f99a=8363 2f99b=83ad 2f99c=8323 2f99d=83bd 2f99e=83e7 2f99f=8457 2f9a0=8353
   2f9a1=83ca 2f9a2=83cc 2f9a3=83dc 2f9a4=26c36 2f9a5=26d6b 2f9a6=26cd5 2f9a7=452b 2f9a8=84f1
   2f9a9=84f3 2f9aa=8516 2f9ab=273ca 2f9ac=8564 2f9ad=26f2c 2f9ae=455d 2f9af=4561 2f9b0=26fb1
   2f9b1=270d2 2f9b2=456b 2f9b3=8650 2f9b4=865c 2f9b5=8667 2f9b6=8669 2f9b7=86a9 2f9b8=8688
   2f9b9=870e 2f9ba=86e2 2f9bb=8779 2f9bc=8728 2f9bd=876b 2f9be=8786 2f9bf=45d7 2f9c0=87e1
   2f9c1=8801 2f9c2=45f9 2f9c3=8860 2f9c4=8863 2f9c5=27667 2f9c6=88d7 2f9c7=88de 2f9c8=4635
   2f9c9=88fa 2f9ca=34bb 2f9cb=278ae 2f9cc=27966 2f9cd=46be 2f9ce=46c7 2f9cf=8aa0 2f9d0=8aed
   2f9d1=8b8a 2f9d2=8c55 2f9d3=27ca8 2f9d4=8cab 2f9d5=8cc1 2f9d6=8d1b 2f9d7=8d77 2f9d8=27f2f
   2f9d9=20804 2f9da=8dcb 2f9db=8dbc 2f9dc=8df0 2f9dd=208de 2f9de=8ed4 2f9df=8f38 2f9e0=285d2
   2f9e1=285ed 2f9e2=9094 2f9e3=90f1 2f9e4=9111 2f9e5=2872e 2f9e6=911b 2f9e7=9238 2f9e8=92d7
   2f9e9=92d8 2f9ea=927c 2f9eb=93f9 2f9ec=9415 2f9ed=28bfa 2f9ee=958b 2f9ef=4995 2f9f0=95b7
   2f9f1=28d77 2f9f2=49e6 2f9f3=96c3 2f9f4=5db2 2f9f5=9723 2f9f6=29145 2f9f7=2921a 2f9f8=4a6e
   2f9f9=4a76 2f9fa=97e0 2f9fb=2940a 2f9fc=4ab2 2f9fd=29496 2f9fe=980b 2f9ff=980b 2fa00=9829
   2fa01=295b6 2fa02=98e2 2fa03=4b33 2fa04=9929 2fa05=99a7 2fa06=99c2 2fa07=99fe 2fa08=4bce
   2fa09=29b30 2fa0a=9b12 2fa0b=9c40 2fa0c=9cfd 2fa0d=4cce 2fa0e=4ced 2fa0f=9d67 2fa10=2a0ce
   2fa11=4cf8 2fa12=2a105 2fa13=2a20e 2fa14=2a291 2fa15=9ebb 2fa16=4d56 2fa17=9ef9 2fa18=9efe
   2fa19=9f05 2fa1a=9f0f 2fa1b=9f16 2fa1c=9f3b 2fa1d=2a600"

def vanishing : CodePoints := CodePoints.parse
  "ad 34f 61c 115f-1160 17b4-17b5 180b-180f 200b 200e-200f 202a-202e 2060-2064 2066-206f 3164
   fe00-fe0f feff ffa0 1bca0-1bca3 1d173-1d17a e0001 e0020-e007f e0100-e01ef"

/-- Characters above ASCII that no domain name holds. -/
def refused : CodePoints := CodePoints.parse
  "80-9f 378-379 380-383 38b 38d 3a2 530 557-558 58b-58c 590 5c8-5cf 5eb-5ee 5f5-605 6dd 70e-70f
   74b-74c 7b2-7bf 7fb-7fc 82e-82f 83f 85c-85d 85f 86b-86f 88f-897 8e2 984 98d-98e 991-992 9a9
   9b1 9b3-9b5 9ba-9bb 9c5-9c6 9c9-9ca 9cf-9d6 9d8-9db 9de 9e4-9e5 9ff-a00 a04 a0b-a0e a11-a12
   a29 a31 a34 a37 a3a-a3b a3d a43-a46 a49-a4a a4e-a50 a52-a58 a5d a5f-a65 a77-a80 a84 a8e a92
   aa9 ab1 ab4 aba-abb ac6 aca ace-acf ad1-adf ae4-ae5 af2-af8 b00 b04 b0d-b0e b11-b12 b29 b31
   b34 b3a-b3b b45-b46 b49-b4a b4e-b54 b58-b5b b5e b64-b65 b78-b81 b84 b8b-b8d b91 b96-b98 b9b
   b9d ba0-ba2 ba5-ba7 bab-bad bba-bbd bc3-bc5 bc9 bce-bcf bd1-bd6 bd8-be5 bfb-bff c0d c11 c29
   c3a-c3b c45 c49 c4e-c54 c57 c5b-c5c c5e-c5f c64-c65 c70-c76 c8d c91 ca9 cb4 cba-cbb cc5 cc9
   cce-cd4 cd7-cdc cdf ce4-ce5 cf0 cf3-cff d0d d11 d45 d49 d50-d53 d64-d65 d80 d84 d97-d99 db2
   dbc dbe-dbf dc7-dc9 dcb-dce dd5 dd7 de0-de5 df0-df1 df5-e00 e3b-e3e e5c-e80 e83 e85 e8b ea4
   ea6 ebe-ebf ec5 ec7 ece-ecf eda-edb ee0-eff f48 f6d-f70 f98 fbd fcd fdb-fff 10c6 10c8-10cc
   10ce-10cf 1249 124e-124f 1257 1259 125e-125f 1289 128e-128f 12b1 12b6-12b7 12bf 12c1
   12c6-12c7 12d7 1311 1316-1317 135b-135c 137d-137f 139a-139f 13f6-13f7 13fe-13ff 1680
   169d-169f 16f9-16ff 1716-171e 1737-173f 1754-175f 176d 1771 1774-177f 17de-17df 17ea-17ef
   17fa-17ff 181a-181f 1879-187f 18ab-18af 18f6-18ff 191f 192c-192f 193c-193f 1941-1943
   196e-196f 1975-197f 19ac-19af 19ca-19cf 19db-19dd 1a1c-1a1d 1a5f 1a7d-1a7e 1a8a-1a8f
   1a9a-1a9f 1aae-1aaf 1acf-1aff 1b4d-1b4f 1b7f 1bf4-1bfb 1c38-1c3a 1c4a-1c4c 1c89-1c8f
   1cbb-1cbc 1cc8-1ccf 1cfb-1cff 1f16-1f17 1f1e-1f1f 1f46-1f47 1f4e-1f4f 1f58 1f5a 1f5c 1f5e
   1f7e-1f7f 1fb5 1fc5 1fd4-1fd5 1fdc 1ff0-1ff1 1ff5 1fff 2028-2029 2065 2072-2073 208f
   209d-209f 20c1-20cf 20f1-20ff 218c-218f 2427-243f 244b-245f 2b74-2b75 2b96 2cf4-2cf8 2d26
   2d28-2d2c 2d2e-2d2f 2d68-2d6e 2d71-2d7e 2d97-2d9f 2da7 2daf 2db7 2dbf 2dc7 2dcf 2dd7 2ddf
   2e5e-2e7f 2e9a 2ef4-2eff 2fd6-2fef 2ffc-2fff 3040 3097-3098 3100-3104 3130 318f 31e4-31ef
   321f a48d-a48f a4c7-a4cf a62c-a63f a6f8-a6ff a7cb-a7cf a7d2 a7d4 a7da-a7f1 a82d-a82f
   a83a-a83f a878-a87f a8c6-a8cd a8da-a8df a954-a95e a97d-a97f a9ce a9da-a9dd a9ff aa37-aa3f
   aa4e-aa4f aa5a-aa5b aac3-aada aaf7-ab00 ab07-ab08 ab0f-ab10 ab17-ab1f ab27 ab2f ab6c-ab6f
   abee-abef abfa-abff d7a4-d7af d7c7-d7ca d7fc-f8ff fa6e-fa6f fada-faff fb07-fb12 fb18-fb1c
   fb37 fb3d fb3f fb42 fb45 fbc3-fbd2 fd90-fd91 fdc8-fdce fdd0-fdef fe1a-fe1f fe53 fe67
   fe6c-fe6f fe75 fefd-fefe ff00 ffbf-ffc1 ffc8-ffc9 ffd0-ffd1 ffd8-ffd9 ffdd-ffdf ffe7
   ffef-fffb fffe-ffff 1000c 10027 1003b 1003e 1004e-1004f 1005e-1007f 100fb-100ff 10103-10106
   10134-10136 1018f 1019d-1019f 101a1-101cf 101fe-1027f 1029d-1029f 102d1-102df 102fc-102ff
   10324-1032c 1034b-1034f 1037b-1037f 1039e 103c4-103c7 103d6-103ff 1049e-1049f 104aa-104af
   104d4-104d7 104fc-104ff 10528-1052f 10564-1056e 1057b 1058b 10593 10596 105a2 105b2 105ba
   105bd-105ff 10737-1073f 10756-1075f 10768-1077f 10786 107b1 107bb-107ff 10806-10807 10809
   10836 10839-1083b 1083d-1083e 10856 1089f-108a6 108b0-108df 108f3 108f6-108fa 1091c-1091e
   1093a-1093e 10940-1097f 109b8-109bb 109d0-109d1 10a04 10a07-10a0b 10a14 10a18 10a36-10a37
   10a3b-10a3e 10a49-10a4f 10a59-10a5f 10aa0-10abf 10ae7-10aea 10af7-10aff 10b36-10b38
   10b56-10b57 10b73-10b77 10b92-10b98 10b9d-10ba8 10bb0-10bff 10c49-10c7f 10cb3-10cbf
   10cf3-10cf9 10d28-10d2f 10d3a-10e5f 10e7f 10eaa 10eae-10eaf 10eb2-10eff 10f28-10f2f
   10f5a-10f6f 10f8a-10faf 10fcc-10fdf 10ff7-10fff 1104e-11051 11076-1107e 110bd 110c3-110cf
   110e9-110ef 110fa-110ff 11135 11148-1114f 11177-1117f 111e0 111f5-111ff 11212 1123f-1127f
   11287 11289 1128e 1129e 112aa-112af 112eb-112ef 112fa-112ff 11304 1130d-1130e 11311-11312
   11329 11331 11334 1133a 11345-11346 11349-1134a 1134e-1134f 11351-11356 11358-1135c
   11364-11365 1136d-1136f 11375-113ff 1145c 11462-1147f 114c8-114cf 114da-1157f 115b6-115b7
   115de-115ff 11645-1164f 1165a-1165f 1166d-1167f 116ba-116bf 116ca-116ff 1171b-1171c
   1172c-1172f 11747-117ff 1183c-1189f 118f3-118fe 11907-11908 1190a-1190b 11914 11917 11936
   11939-1193a 11947-1194f 1195a-1199f 119a8-119a9 119d8-119d9 119e5-119ff 11a48-11a4f
   11aa3-11aaf 11af9-11bff 11c09 11c37 11c46-11c4f 11c6d-11c6f 11c90-11c91 11ca8 11cb7-11cff
   11d07 11d0a 11d37-11d39 11d3b 11d3e 11d48-11d4f 11d5a-11d5f 11d66 11d69 11d8f 11d92
   11d99-11d9f 11daa-11edf 11ef9-11faf 11fb1-11fbf 11ff2-11ffe 1239a-123ff 1246f 12475-1247f
   12544-12f8f 12ff3-12fff 1342f-143ff 14647-167ff 16a39-16a3f 16a5f 16a6a-16a6d 16abf
   16aca-16acf 16aee-16aef 16af6-16aff 16b46-16b4f 16b5a 16b62 16b78-16b7c 16b90-16e3f
   16e9b-16eff 16f4b-16f4e 16f88-16f8e 16fa0-16fdf 16fe5-16fef 16ff2-16fff 187f8-187ff
   18cd6-18cff 18d09-1afef 1aff4 1affc 1afff 1b123-1b14f 1b153-1b163 1b168-1b16f 1b2fc-1bbff
   1bc6b-1bc6f 1bc7d-1bc7f 1bc89-1bc8f 1bc9a-1bc9b 1bca4-1ceff 1cf2e-1cf2f 1cf47-1cf4f
   1cfc4-1cfff 1d0f6-1d0ff 1d127-1d128 1d1eb-1d1ff 1d246-1d2df 1d2f4-1d2ff 1d357-1d35f
   1d379-1d3ff 1d455 1d49d 1d4a0-1d4a1 1d4a3-1d4a4 1d4a7-1d4a8 1d4ad 1d4ba 1d4bc 1d4c4 1d506
   1d50b-1d50c 1d515 1d51d 1d53a 1d53f 1d545 1d547-1d549 1d551 1d6a6-1d6a7 1d7cc-1d7cd
   1da8c-1da9a 1daa0 1dab0-1deff 1df1f-1dfff 1e007 1e019-1e01a 1e022 1e025 1e02b-1e0ff
   1e12d-1e12f 1e13e-1e13f 1e14a-1e14d 1e150-1e28f 1e2af-1e2bf 1e2fa-1e2fe 1e300-1e7df 1e7e7
   1e7ec 1e7ef 1e7ff 1e8c5-1e8c6 1e8d7-1e8ff 1e94c-1e94f 1e95a-1e95d 1e960-1ec70 1ecb5-1ed00
   1ed3e-1edff 1ee04 1ee20 1ee23 1ee25-1ee26 1ee28 1ee33 1ee38 1ee3a 1ee3c-1ee41 1ee43-1ee46
   1ee48 1ee4a 1ee4c 1ee50 1ee53 1ee55-1ee56 1ee58 1ee5a 1ee5c 1ee5e 1ee60 1ee63 1ee65-1ee66
   1ee6b 1ee73 1ee78 1ee7d 1ee7f 1ee8a 1ee9c-1eea0 1eea4 1eeaa 1eebc-1eeef 1eef2-1efff
   1f02c-1f02f 1f094-1f09f 1f0af-1f0b0 1f0c0 1f0d0 1f0f6-1f0ff 1f1ae-1f1e5 1f203-1f20f
   1f23c-1f23f 1f249-1f24f 1f252-1f25f 1f266-1f2ff 1f6d8-1f6dc 1f6ed-1f6ef 1f6fd-1f6ff
   1f774-1f77f 1f7d9-1f7df 1f7ec-1f7ef 1f7f1-1f7ff 1f80c-1f80f 1f848-1f84f 1f85a-1f85f
   1f888-1f88f 1f8ae-1f8af 1f8b2-1f8ff 1fa54-1fa5f 1fa6e-1fa6f 1fa75-1fa77 1fa7d-1fa7f
   1fa87-1fa8f 1faad-1faaf 1fabb-1fabf 1fac6-1facf 1fada-1fadf 1fae8-1faef 1faf7-1faff 1fb93
   1fbcb-1fbef 1fbfa-1ffff 2a6e0-2a6ff 2b739-2b73f 2b81e-2b81f 2cea2-2ceaf 2ebe1-2f7ff
   2fa1e-2ffff 3134b-e0000 e0002-e001f e0080-e00ff e01f0-10ffff"

/-- Combining marks; no label starts with one. -/
def marks : CodePoints := CodePoints.parse
  "300-36f 483-489 591-5bd 5bf 5c1-5c2 5c4-5c5 5c7 610-61a 64b-65f 670 6d6-6dc 6df-6e4 6e7-6e8
   6ea-6ed 711 730-74a 7a6-7b0 7eb-7f3 7fd 816-819 81b-823 825-827 829-82d 859-85b 898-89f
   8ca-8e1 8e3-903 93a-93c 93e-94f 951-957 962-963 981-983 9bc 9be-9c4 9c7-9c8 9cb-9cd 9d7
   9e2-9e3 9fe a01-a03 a3c a3e-a42 a47-a48 a4b-a4d a51 a70-a71 a75 a81-a83 abc abe-ac5 ac7-ac9
   acb-acd ae2-ae3 afa-aff b01-b03 b3c b3e-b44 b47-b48 b4b-b4d b55-b57 b62-b63 b82 bbe-bc2
   bc6-bc8 bca-bcd bd7 c00-c04 c3c c3e-c44 c46-c48 c4a-c4d c55-c56 c62-c63 c81-c83 cbc cbe-cc4
   cc6-cc8 cca-ccd cd5-cd6 ce2-ce3 d00-d03 d3b-d3c d3e-d44 d46-d48 d4a-d4d d57 d62-d63 d81-d83
   dca dcf-dd4 dd6 dd8-ddf df2-df3 e31 e34-e3a e47-e4e eb1 eb4-ebc ec8-ecd f18-f19 f35 f37 f39
   f3e-f3f f71-f84 f86-f87 f8d-f97 f99-fbc fc6 102b-103e 1056-1059 105e-1060 1062-1064 1067-106d
   1071-1074 1082-108d 108f 109a-109d 135d-135f 1712-1715 1732-1734 1752-1753 1772-1773
   17b4-17d3 17dd 180b-180d 180f 1885-1886 18a9 1920-192b 1930-193b 1a17-1a1b 1a55-1a5e
   1a60-1a7c 1a7f 1ab0-1ace 1b00-1b04 1b34-1b44 1b6b-1b73 1b80-1b82 1ba1-1bad 1be6-1bf3
   1c24-1c37 1cd0-1cd2 1cd4-1ce8 1ced 1cf4 1cf7-1cf9 1dc0-1dff 20d0-20f0 2cef-2cf1 2d7f
   2de0-2dff 302a-302f 3099-309a a66f-a672 a674-a67d a69e-a69f a6f0-a6f1 a802 a806 a80b
   a823-a827 a82c a880-a881 a8b4-a8c5 a8e0-a8f1 a8ff a926-a92d a947-a953 a980-a983 a9b3-a9c0
   a9e5 aa29-aa36 aa43 aa4c-aa4d aa7b-aa7d aab0 aab2-aab4 aab7-aab8 aabe-aabf aac1 aaeb-aaef
   aaf5-aaf6 abe3-abea abec-abed fb1e fe00-fe0f fe20-fe2f 101fd 102e0 10376-1037a 10a01-10a03
   10a05-10a06 10a0c-10a0f 10a38-10a3a 10a3f 10ae5-10ae6 10d24-10d27 10eab-10eac 10f46-10f50
   10f82-10f85 11000-11002 11038-11046 11070 11073-11074 1107f-11082 110b0-110ba 110c2
   11100-11102 11127-11134 11145-11146 11173 11180-11182 111b3-111c0 111c9-111cc 111ce-111cf
   1122c-11237 1123e 112df-112ea 11300-11303 1133b-1133c 1133e-11344 11347-11348 1134b-1134d
   11357 11362-11363 11366-1136c 11370-11374 11435-11446 1145e 114b0-114c3 115af-115b5
   115b8-115c0 115dc-115dd 11630-11640 116ab-116b7 1171d-1172b 1182c-1183a 11930-11935
   11937-11938 1193b-1193e 11940 11942-11943 119d1-119d7 119da-119e0 119e4 11a01-11a0a
   11a33-11a39 11a3b-11a3e 11a47 11a51-11a5b 11a8a-11a99 11c2f-11c36 11c38-11c3f 11c92-11ca7
   11ca9-11cb6 11d31-11d36 11d3a 11d3c-11d3d 11d3f-11d45 11d47 11d8a-11d8e 11d90-11d91
   11d93-11d97 11ef3-11ef6 16af0-16af4 16b30-16b36 16f4f 16f51-16f87 16f8f-16f92 16fe4
   16ff0-16ff1 1bc9d-1bc9e 1cf00-1cf2d 1cf30-1cf46 1d165-1d169 1d16d-1d172 1d17b-1d182
   1d185-1d18b 1d1aa-1d1ad 1d242-1d244 1da00-1da36 1da3b-1da6c 1da75 1da84 1da9b-1da9f
   1daa1-1daaf 1e000-1e006 1e008-1e018 1e01b-1e021 1e023-1e024 1e026-1e02a 1e130-1e136 1e2ae
   1e2ec-1e2ef 1e8d0-1e8d6 1e944-1e94a e0100-e01ef"

/-- What a character folds to; `none` if no domain name may hold it. -/
def fold? (c : Char) : Option Text :=
  if c.toNat < 0x80 then some [c.toLower]
  else if c = 'ß' ∨ c = 'ς' ∨ c = '\u200C' ∨ c = '\u200D' then some [c]
  else if c = '\u3002' ∨ c = '\uFF0E' ∨ c = '\uFF61' then some ['.']
  else if vanishing.mem c then some []
  else
    match several.find? c with
    | some cs => some cs
    | none => if refused.mem c then none else some [Shift.apply single c]

end DomainTable

end SiteGateway
