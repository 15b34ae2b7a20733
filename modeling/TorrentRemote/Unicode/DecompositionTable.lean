/-!
# Canonical decompositions

A text with one entry for each character that has a canonical decomposition, Hangul syllables apart.
An entry is a code point, a letter, and code points joined by dots, all in hexadecimal.  After `P`
stand the two characters that compose to the character; after `X` stands the full decomposition of a
character that is never composed.
-/

namespace TorrentRemote.Unicode

/-- The canonical decompositions. -/
def decompositionText : String :=
  "c0P41.300 c1P41.301 c2P41.302 c3P41.303 c4P41.308 c5P41.30a c7P43.327 c8P45.300 c9P45.301
caP45.302 cbP45.308 ccP49.300 cdP49.301 ceP49.302 cfP49.308 d1P4e.303 d2P4f.300 d3P4f.301
d4P4f.302 d5P4f.303 d6P4f.308 d9P55.300 daP55.301 dbP55.302 dcP55.308 ddP59.301 e0P61.300
e1P61.301 e2P61.302 e3P61.303 e4P61.308 e5P61.30a e7P63.327 e8P65.300 e9P65.301 eaP65.302
ebP65.308 ecP69.300 edP69.301 eeP69.302 efP69.308 f1P6e.303 f2P6f.300 f3P6f.301 f4P6f.302
f5P6f.303 f6P6f.308 f9P75.300 faP75.301 fbP75.302 fcP75.308 fdP79.301 ffP79.308 100P41.304
101P61.304 102P41.306 103P61.306 104P41.328 105P61.328 106P43.301 107P63.301 108P43.302 109P63.302
10aP43.307 10bP63.307 10cP43.30c 10dP63.30c 10eP44.30c 10fP64.30c 112P45.304 113P65.304 114P45.306
115P65.306 116P45.307 117P65.307 118P45.328 119P65.328 11aP45.30c 11bP65.30c 11cP47.302 11dP67.302
11eP47.306 11fP67.306 120P47.307 121P67.307 122P47.327 123P67.327 124P48.302 125P68.302 128P49.303
129P69.303 12aP49.304 12bP69.304 12cP49.306 12dP69.306 12eP49.328 12fP69.328 130P49.307 134P4a.302
135P6a.302 136P4b.327 137P6b.327 139P4c.301 13aP6c.301 13bP4c.327 13cP6c.327 13dP4c.30c 13eP6c.30c
143P4e.301 144P6e.301 145P4e.327 146P6e.327 147P4e.30c 148P6e.30c 14cP4f.304 14dP6f.304 14eP4f.306
14fP6f.306 150P4f.30b 151P6f.30b 154P52.301 155P72.301 156P52.327 157P72.327 158P52.30c 159P72.30c
15aP53.301 15bP73.301 15cP53.302 15dP73.302 15eP53.327 15fP73.327 160P53.30c 161P73.30c 162P54.327
163P74.327 164P54.30c 165P74.30c 168P55.303 169P75.303 16aP55.304 16bP75.304 16cP55.306 16dP75.306
16eP55.30a 16fP75.30a 170P55.30b 171P75.30b 172P55.328 173P75.328 174P57.302 175P77.302 176P59.302
177P79.302 178P59.308 179P5a.301 17aP7a.301 17bP5a.307 17cP7a.307 17dP5a.30c 17eP7a.30c 1a0P4f.31b
1a1P6f.31b 1afP55.31b 1b0P75.31b 1cdP41.30c 1ceP61.30c 1cfP49.30c 1d0P69.30c 1d1P4f.30c 1d2P6f.30c
1d3P55.30c 1d4P75.30c 1d5Pdc.304 1d6Pfc.304 1d7Pdc.301 1d8Pfc.301 1d9Pdc.30c 1daPfc.30c 1dbPdc.300
1dcPfc.300 1dePc4.304 1dfPe4.304 1e0P226.304 1e1P227.304 1e2Pc6.304 1e3Pe6.304 1e6P47.30c
1e7P67.30c 1e8P4b.30c 1e9P6b.30c 1eaP4f.328 1ebP6f.328 1ecP1ea.304 1edP1eb.304 1eeP1b7.30c
1efP292.30c 1f0P6a.30c 1f4P47.301 1f5P67.301 1f8P4e.300 1f9P6e.300 1faPc5.301 1fbPe5.301
1fcPc6.301 1fdPe6.301 1fePd8.301 1ffPf8.301 200P41.30f 201P61.30f 202P41.311 203P61.311 204P45.30f
205P65.30f 206P45.311 207P65.311 208P49.30f 209P69.30f 20aP49.311 20bP69.311 20cP4f.30f 20dP6f.30f
20eP4f.311 20fP6f.311 210P52.30f 211P72.30f 212P52.311 213P72.311 214P55.30f 215P75.30f 216P55.311
217P75.311 218P53.326 219P73.326 21aP54.326 21bP74.326 21eP48.30c 21fP68.30c 226P41.307 227P61.307
228P45.327 229P65.327 22aPd6.304 22bPf6.304 22cPd5.304 22dPf5.304 22eP4f.307 22fP6f.307
230P22e.304 231P22f.304 232P59.304 233P79.304 340X300 341X301 343X313 344X308.301 374X2b9 37eX3b
385Pa8.301 386P391.301 387Xb7 388P395.301 389P397.301 38aP399.301 38cP39f.301 38eP3a5.301
38fP3a9.301 390P3ca.301 3aaP399.308 3abP3a5.308 3acP3b1.301 3adP3b5.301 3aeP3b7.301 3afP3b9.301
3b0P3cb.301 3caP3b9.308 3cbP3c5.308 3ccP3bf.301 3cdP3c5.301 3ceP3c9.301 3d3P3d2.301 3d4P3d2.308
400P415.300 401P415.308 403P413.301 407P406.308 40cP41a.301 40dP418.300 40eP423.306 419P418.306
439P438.306 450P435.300 451P435.308 453P433.301 457P456.308 45cP43a.301 45dP438.300 45eP443.306
476P474.30f 477P475.30f 4c1P416.306 4c2P436.306 4d0P410.306 4d1P430.306 4d2P410.308 4d3P430.308
4d6P415.306 4d7P435.306 4daP4d8.308 4dbP4d9.308 4dcP416.308 4ddP436.308 4deP417.308 4dfP437.308
4e2P418.304 4e3P438.304 4e4P418.308 4e5P438.308 4e6P41e.308 4e7P43e.308 4eaP4e8.308 4ebP4e9.308
4ecP42d.308 4edP44d.308 4eeP423.304 4efP443.304 4f0P423.308 4f1P443.308 4f2P423.30b 4f3P443.30b
4f4P427.308 4f5P447.308 4f8P42b.308 4f9P44b.308 622P627.653 623P627.654 624P648.654 625P627.655
626P64a.654 6c0P6d5.654 6c2P6c1.654 6d3P6d2.654 929P928.93c 931P930.93c 934P933.93c 958X915.93c
959X916.93c 95aX917.93c 95bX91c.93c 95cX921.93c 95dX922.93c 95eX92b.93c 95fX92f.93c 9cbP9c7.9be
9ccP9c7.9d7 9dcX9a1.9bc 9ddX9a2.9bc 9dfX9af.9bc a33Xa32.a3c a36Xa38.a3c a59Xa16.a3c a5aXa17.a3c
a5bXa1c.a3c a5eXa2b.a3c b48Pb47.b56 b4bPb47.b3e b4cPb47.b57 b5cXb21.b3c b5dXb22.b3c b94Pb92.bd7
bcaPbc6.bbe bcbPbc7.bbe bccPbc6.bd7 c48Pc46.c56 cc0Pcbf.cd5 cc7Pcc6.cd5 cc8Pcc6.cd6 ccaPcc6.cc2
ccbPcca.cd5 d4aPd46.d3e d4bPd47.d3e d4cPd46.d57 ddaPdd9.dca ddcPdd9.dcf dddPddc.dca ddePdd9.ddf
f43Xf42.fb7 f4dXf4c.fb7 f52Xf51.fb7 f57Xf56.fb7 f5cXf5b.fb7 f69Xf40.fb5 f73Xf71.f72 f75Xf71.f74
f76Xfb2.f80 f78Xfb3.f80 f81Xf71.f80 f93Xf92.fb7 f9dXf9c.fb7 fa2Xfa1.fb7 fa7Xfa6.fb7 facXfab.fb7
fb9Xf90.fb5 1026P1025.102e 1b06P1b05.1b35 1b08P1b07.1b35 1b0aP1b09.1b35 1b0cP1b0b.1b35
1b0eP1b0d.1b35 1b12P1b11.1b35 1b3bP1b3a.1b35 1b3dP1b3c.1b35 1b40P1b3e.1b35 1b41P1b3f.1b35
1b43P1b42.1b35 1e00P41.325 1e01P61.325 1e02P42.307 1e03P62.307 1e04P42.323 1e05P62.323 1e06P42.331
1e07P62.331 1e08Pc7.301 1e09Pe7.301 1e0aP44.307 1e0bP64.307 1e0cP44.323 1e0dP64.323 1e0eP44.331
1e0fP64.331 1e10P44.327 1e11P64.327 1e12P44.32d 1e13P64.32d 1e14P112.300 1e15P113.300 1e16P112.301
1e17P113.301 1e18P45.32d 1e19P65.32d 1e1aP45.330 1e1bP65.330 1e1cP228.306 1e1dP229.306 1e1eP46.307
1e1fP66.307 1e20P47.304 1e21P67.304 1e22P48.307 1e23P68.307 1e24P48.323 1e25P68.323 1e26P48.308
1e27P68.308 1e28P48.327 1e29P68.327 1e2aP48.32e 1e2bP68.32e 1e2cP49.330 1e2dP69.330 1e2ePcf.301
1e2fPef.301 1e30P4b.301 1e31P6b.301 1e32P4b.323 1e33P6b.323 1e34P4b.331 1e35P6b.331 1e36P4c.323
1e37P6c.323 1e38P1e36.304 1e39P1e37.304 1e3aP4c.331 1e3bP6c.331 1e3cP4c.32d 1e3dP6c.32d
1e3eP4d.301 1e3fP6d.301 1e40P4d.307 1e41P6d.307 1e42P4d.323 1e43P6d.323 1e44P4e.307 1e45P6e.307
1e46P4e.323 1e47P6e.323 1e48P4e.331 1e49P6e.331 1e4aP4e.32d 1e4bP6e.32d 1e4cPd5.301 1e4dPf5.301
1e4ePd5.308 1e4fPf5.308 1e50P14c.300 1e51P14d.300 1e52P14c.301 1e53P14d.301 1e54P50.301
1e55P70.301 1e56P50.307 1e57P70.307 1e58P52.307 1e59P72.307 1e5aP52.323 1e5bP72.323 1e5cP1e5a.304
1e5dP1e5b.304 1e5eP52.331 1e5fP72.331 1e60P53.307 1e61P73.307 1e62P53.323 1e63P73.323 1e64P15a.307
1e65P15b.307 1e66P160.307 1e67P161.307 1e68P1e62.307 1e69P1e63.307 1e6aP54.307 1e6bP74.307
1e6cP54.323 1e6dP74.323 1e6eP54.331 1e6fP74.331 1e70P54.32d 1e71P74.32d 1e72P55.324 1e73P75.324
1e74P55.330 1e75P75.330 1e76P55.32d 1e77P75.32d 1e78P168.301 1e79P169.301 1e7aP16a.308
1e7bP16b.308 1e7cP56.303 1e7dP76.303 1e7eP56.323 1e7fP76.323 1e80P57.300 1e81P77.300 1e82P57.301
1e83P77.301 1e84P57.308 1e85P77.308 1e86P57.307 1e87P77.307 1e88P57.323 1e89P77.323 1e8aP58.307
1e8bP78.307 1e8cP58.308 1e8dP78.308 1e8eP59.307 1e8fP79.307 1e90P5a.302 1e91P7a.302 1e92P5a.323
1e93P7a.323 1e94P5a.331 1e95P7a.331 1e96P68.331 1e97P74.308 1e98P77.30a 1e99P79.30a 1e9bP17f.307
1ea0P41.323 1ea1P61.323 1ea2P41.309 1ea3P61.309 1ea4Pc2.301 1ea5Pe2.301 1ea6Pc2.300 1ea7Pe2.300
1ea8Pc2.309 1ea9Pe2.309 1eaaPc2.303 1eabPe2.303 1eacP1ea0.302 1eadP1ea1.302 1eaeP102.301
1eafP103.301 1eb0P102.300 1eb1P103.300 1eb2P102.309 1eb3P103.309 1eb4P102.303 1eb5P103.303
1eb6P1ea0.306 1eb7P1ea1.306 1eb8P45.323 1eb9P65.323 1ebaP45.309 1ebbP65.309 1ebcP45.303
1ebdP65.303 1ebePca.301 1ebfPea.301 1ec0Pca.300 1ec1Pea.300 1ec2Pca.309 1ec3Pea.309 1ec4Pca.303
1ec5Pea.303 1ec6P1eb8.302 1ec7P1eb9.302 1ec8P49.309 1ec9P69.309 1ecaP49.323 1ecbP69.323
1eccP4f.323 1ecdP6f.323 1eceP4f.309 1ecfP6f.309 1ed0Pd4.301 1ed1Pf4.301 1ed2Pd4.300 1ed3Pf4.300
1ed4Pd4.309 1ed5Pf4.309 1ed6Pd4.303 1ed7Pf4.303 1ed8P1ecc.302 1ed9P1ecd.302 1edaP1a0.301
1edbP1a1.301 1edcP1a0.300 1eddP1a1.300 1edeP1a0.309 1edfP1a1.309 1ee0P1a0.303 1ee1P1a1.303
1ee2P1a0.323 1ee3P1a1.323 1ee4P55.323 1ee5P75.323 1ee6P55.309 1ee7P75.309 1ee8P1af.301
1ee9P1b0.301 1eeaP1af.300 1eebP1b0.300 1eecP1af.309 1eedP1b0.309 1eeeP1af.303 1eefP1b0.303
1ef0P1af.323 1ef1P1b0.323 1ef2P59.300 1ef3P79.300 1ef4P59.323 1ef5P79.323 1ef6P59.309 1ef7P79.309
1ef8P59.303 1ef9P79.303 1f00P3b1.313 1f01P3b1.314 1f02P1f00.300 1f03P1f01.300 1f04P1f00.301
1f05P1f01.301 1f06P1f00.342 1f07P1f01.342 1f08P391.313 1f09P391.314 1f0aP1f08.300 1f0bP1f09.300
1f0cP1f08.301 1f0dP1f09.301 1f0eP1f08.342 1f0fP1f09.342 1f10P3b5.313 1f11P3b5.314 1f12P1f10.300
1f13P1f11.300 1f14P1f10.301 1f15P1f11.301 1f18P395.313 1f19P395.314 1f1aP1f18.300 1f1bP1f19.300
1f1cP1f18.301 1f1dP1f19.301 1f20P3b7.313 1f21P3b7.314 1f22P1f20.300 1f23P1f21.300 1f24P1f20.301
1f25P1f21.301 1f26P1f20.342 1f27P1f21.342 1f28P397.313 1f29P397.314 1f2aP1f28.300 1f2bP1f29.300
1f2cP1f28.301 1f2dP1f29.301 1f2eP1f28.342 1f2fP1f29.342 1f30P3b9.313 1f31P3b9.314 1f32P1f30.300
1f33P1f31.300 1f34P1f30.301 1f35P1f31.301 1f36P1f30.342 1f37P1f31.342 1f38P399.313 1f39P399.314
1f3aP1f38.300 1f3bP1f39.300 1f3cP1f38.301 1f3dP1f39.301 1f3eP1f38.342 1f3fP1f39.342 1f40P3bf.313
1f41P3bf.314 1f42P1f40.300 1f43P1f41.300 1f44P1f40.301 1f45P1f41.301 1f48P39f.313 1f49P39f.314
1f4aP1f48.300 1f4bP1f49.300 1f4cP1f48.301 1f4dP1f49.301 1f50P3c5.313 1f51P3c5.314 1f52P1f50.300
1f53P1f51.300 1f54P1f50.301 1f55P1f51.301 1f56P1f50.342 1f57P1f51.342 1f59P3a5.314 1f5bP1f59.300
1f5dP1f59.301 1f5fP1f59.342 1f60P3c9.313 1f61P3c9.314 1f62P1f60.300 1f63P1f61.300 1f64P1f60.301
1f65P1f61.301 1f66P1f60.342 1f67P1f61.342 1f68P3a9.313 1f69P3a9.314 1f6aP1f68.300 1f6bP1f69.300
1f6cP1f68.301 1f6dP1f69.301 1f6eP1f68.342 1f6fP1f69.342 1f70P3b1.300 1f71X3b1.301 1f72P3b5.300
1f73X3b5.301 1f74P3b7.300 1f75X3b7.301 1f76P3b9.300 1f77X3b9.301 1f78P3bf.300 1f79X3bf.301
1f7aP3c5.300 1f7bX3c5.301 1f7cP3c9.300 1f7dX3c9.301 1f80P1f00.345 1f81P1f01.345 1f82P1f02.345
1f83P1f03.345 1f84P1f04.345 1f85P1f05.345 1f86P1f06.345 1f87P1f07.345 1f88P1f08.345 1f89P1f09.345
1f8aP1f0a.345 1f8bP1f0b.345 1f8cP1f0c.345 1f8dP1f0d.345 1f8eP1f0e.345 1f8fP1f0f.345 1f90P1f20.345
1f91P1f21.345 1f92P1f22.345 1f93P1f23.345 1f94P1f24.345 1f95P1f25.345 1f96P1f26.345 1f97P1f27.345
1f98P1f28.345 1f99P1f29.345 1f9aP1f2a.345 1f9bP1f2b.345 1f9cP1f2c.345 1f9dP1f2d.345 1f9eP1f2e.345
1f9fP1f2f.345 1fa0P1f60.345 1fa1P1f61.345 1fa2P1f62.345 1fa3P1f63.345 1fa4P1f64.345 1fa5P1f65.345
1fa6P1f66.345 1fa7P1f67.345 1fa8P1f68.345 1fa9P1f69.345 1faaP1f6a.345 1fabP1f6b.345 1facP1f6c.345
1fadP1f6d.345 1faeP1f6e.345 1fafP1f6f.345 1fb0P3b1.306 1fb1P3b1.304 1fb2P1f70.345 1fb3P3b1.345
1fb4P3ac.345 1fb6P3b1.342 1fb7P1fb6.345 1fb8P391.306 1fb9P391.304 1fbaP391.300 1fbbX391.301
1fbcP391.345 1fbeX3b9 1fc1Pa8.342 1fc2P1f74.345 1fc3P3b7.345 1fc4P3ae.345 1fc6P3b7.342
1fc7P1fc6.345 1fc8P395.300 1fc9X395.301 1fcaP397.300 1fcbX397.301 1fccP397.345 1fcdP1fbf.300
1fceP1fbf.301 1fcfP1fbf.342 1fd0P3b9.306 1fd1P3b9.304 1fd2P3ca.300 1fd3X3b9.308.301 1fd6P3b9.342
1fd7P3ca.342 1fd8P399.306 1fd9P399.304 1fdaP399.300 1fdbX399.301 1fddP1ffe.300 1fdeP1ffe.301
1fdfP1ffe.342 1fe0P3c5.306 1fe1P3c5.304 1fe2P3cb.300 1fe3X3c5.308.301 1fe4P3c1.313 1fe5P3c1.314
1fe6P3c5.342 1fe7P3cb.342 1fe8P3a5.306 1fe9P3a5.304 1feaP3a5.300 1febX3a5.301 1fecP3a1.314
1fedPa8.300 1feeXa8.301 1fefX60 1ff2P1f7c.345 1ff3P3c9.345 1ff4P3ce.345 1ff6P3c9.342 1ff7P1ff6.345
1ff8P39f.300 1ff9X39f.301 1ffaP3a9.300 1ffbX3a9.301 1ffcP3a9.345 1ffdXb4 2000X2002 2001X2003
2126X3a9 212aX4b 212bX41.30a 219aP2190.338 219bP2192.338 21aeP2194.338 21cdP21d0.338 21ceP21d4.338
21cfP21d2.338 2204P2203.338 2209P2208.338 220cP220b.338 2224P2223.338 2226P2225.338 2241P223c.338
2244P2243.338 2247P2245.338 2249P2248.338 2260P3d.338 2262P2261.338 226dP224d.338 226eP3c.338
226fP3e.338 2270P2264.338 2271P2265.338 2274P2272.338 2275P2273.338 2278P2276.338 2279P2277.338
2280P227a.338 2281P227b.338 2284P2282.338 2285P2283.338 2288P2286.338 2289P2287.338 22acP22a2.338
22adP22a8.338 22aeP22a9.338 22afP22ab.338 22e0P227c.338 22e1P227d.338 22e2P2291.338 22e3P2292.338
22eaP22b2.338 22ebP22b3.338 22ecP22b4.338 22edP22b5.338 2329X3008 232aX3009 2adcX2add.338
304cP304b.3099 304eP304d.3099 3050P304f.3099 3052P3051.3099 3054P3053.3099 3056P3055.3099
3058P3057.3099 305aP3059.3099 305cP305b.3099 305eP305d.3099 3060P305f.3099 3062P3061.3099
3065P3064.3099 3067P3066.3099 3069P3068.3099 3070P306f.3099 3071P306f.309a 3073P3072.3099
3074P3072.309a 3076P3075.3099 3077P3075.309a 3079P3078.3099 307aP3078.309a 307cP307b.3099
307dP307b.309a 3094P3046.3099 309eP309d.3099 30acP30ab.3099 30aeP30ad.3099 30b0P30af.3099
30b2P30b1.3099 30b4P30b3.3099 30b6P30b5.3099 30b8P30b7.3099 30baP30b9.3099 30bcP30bb.3099
30beP30bd.3099 30c0P30bf.3099 30c2P30c1.3099 30c5P30c4.3099 30c7P30c6.3099 30c9P30c8.3099
30d0P30cf.3099 30d1P30cf.309a 30d3P30d2.3099 30d4P30d2.309a 30d6P30d5.3099 30d7P30d5.309a
30d9P30d8.3099 30daP30d8.309a 30dcP30db.3099 30ddP30db.309a 30f4P30a6.3099 30f7P30ef.3099
30f8P30f0.3099 30f9P30f1.3099 30faP30f2.3099 30feP30fd.3099 f900X8c48 f901X66f4 f902X8eca
f903X8cc8 f904X6ed1 f905X4e32 f906X53e5 f907X9f9c f908X9f9c f909X5951 f90aX91d1 f90bX5587
f90cX5948 f90dX61f6 f90eX7669 f90fX7f85 f910X863f f911X87ba f912X88f8 f913X908f f914X6a02
f915X6d1b f916X70d9 f917X73de f918X843d f919X916a f91aX99f1 f91bX4e82 f91cX5375 f91dX6b04
f91eX721b f91fX862d f920X9e1e f921X5d50 f922X6feb f923X85cd f924X8964 f925X62c9 f926X81d8
f927X881f f928X5eca f929X6717 f92aX6d6a f92bX72fc f92cX90ce f92dX4f86 f92eX51b7 f92fX52de
f930X64c4 f931X6ad3 f932X7210 f933X76e7 f934X8001 f935X8606 f936X865c f937X8def f938X9732
f939X9b6f f93aX9dfa f93bX788c f93cX797f f93dX7da0 f93eX83c9 f93fX9304 f940X9e7f f941X8ad6
f942X58df f943X5f04 f944X7c60 f945X807e f946X7262 f947X78ca f948X8cc2 f949X96f7 f94aX58d8
f94bX5c62 f94cX6a13 f94dX6dda f94eX6f0f f94fX7d2f f950X7e37 f951X964b f952X52d2 f953X808b
f954X51dc f955X51cc f956X7a1c f957X7dbe f958X83f1 f959X9675 f95aX8b80 f95bX62cf f95cX6a02
f95dX8afe f95eX4e39 f95fX5be7 f960X6012 f961X7387 f962X7570 f963X5317 f964X78fb f965X4fbf
f966X5fa9 f967X4e0d f968X6ccc f969X6578 f96aX7d22 f96bX53c3 f96cX585e f96dX7701 f96eX8449
f96fX8aaa f970X6bba f971X8fb0 f972X6c88 f973X62fe f974X82e5 f975X63a0 f976X7565 f977X4eae
f978X5169 f979X51c9 f97aX6881 f97bX7ce7 f97cX826f f97dX8ad2 f97eX91cf f97fX52f5 f980X5442
f981X5973 f982X5eec f983X65c5 f984X6ffe f985X792a f986X95ad f987X9a6a f988X9e97 f989X9ece
f98aX529b f98bX66c6 f98cX6b77 f98dX8f62 f98eX5e74 f98fX6190 f990X6200 f991X649a f992X6f23
f993X7149 f994X7489 f995X79ca f996X7df4 f997X806f f998X8f26 f999X84ee f99aX9023 f99bX934a
f99cX5217 f99dX52a3 f99eX54bd f99fX70c8 f9a0X88c2 f9a1X8aaa f9a2X5ec9 f9a3X5ff5 f9a4X637b
f9a5X6bae f9a6X7c3e f9a7X7375 f9a8X4ee4 f9a9X56f9 f9aaX5be7 f9abX5dba f9acX601c f9adX73b2
f9aeX7469 f9afX7f9a f9b0X8046 f9b1X9234 f9b2X96f6 f9b3X9748 f9b4X9818 f9b5X4f8b f9b6X79ae
f9b7X91b4 f9b8X96b8 f9b9X60e1 f9baX4e86 f9bbX50da f9bcX5bee f9bdX5c3f f9beX6599 f9bfX6a02
f9c0X71ce f9c1X7642 f9c2X84fc f9c3X907c f9c4X9f8d f9c5X6688 f9c6X962e f9c7X5289 f9c8X677b
f9c9X67f3 f9caX6d41 f9cbX6e9c f9ccX7409 f9cdX7559 f9ceX786b f9cfX7d10 f9d0X985e f9d1X516d
f9d2X622e f9d3X9678 f9d4X502b f9d5X5d19 f9d6X6dea f9d7X8f2a f9d8X5f8b f9d9X6144 f9daX6817
f9dbX7387 f9dcX9686 f9ddX5229 f9deX540f f9dfX5c65 f9e0X6613 f9e1X674e f9e2X68a8 f9e3X6ce5
f9e4X7406 f9e5X75e2 f9e6X7f79 f9e7X88cf f9e8X88e1 f9e9X91cc f9eaX96e2 f9ebX533f f9ecX6eba
f9edX541d f9eeX71d0 f9efX7498 f9f0X85fa f9f1X96a3 f9f2X9c57 f9f3X9e9f f9f4X6797 f9f5X6dcb
f9f6X81e8 f9f7X7acb f9f8X7b20 f9f9X7c92 f9faX72c0 f9fbX7099 f9fcX8b58 f9fdX4ec0 f9feX8336
f9ffX523a fa00X5207 fa01X5ea6 fa02X62d3 fa03X7cd6 fa04X5b85 fa05X6d1e fa06X66b4 fa07X8f3b
fa08X884c fa09X964d fa0aX898b fa0bX5ed3 fa0cX5140 fa0dX55c0 fa10X585a fa12X6674 fa15X51de
fa16X732a fa17X76ca fa18X793c fa19X795e fa1aX7965 fa1bX798f fa1cX9756 fa1dX7cbe fa1eX7fbd
fa20X8612 fa22X8af8 fa25X9038 fa26X90fd fa2aX98ef fa2bX98fc fa2cX9928 fa2dX9db4 fa2eX90de
fa2fX96b7 fa30X4fae fa31X50e7 fa32X514d fa33X52c9 fa34X52e4 fa35X5351 fa36X559d fa37X5606
fa38X5668 fa39X5840 fa3aX58a8 fa3bX5c64 fa3cX5c6e fa3dX6094 fa3eX6168 fa3fX618e fa40X61f2
fa41X654f fa42X65e2 fa43X6691 fa44X6885 fa45X6d77 fa46X6e1a fa47X6f22 fa48X716e fa49X722b
fa4aX7422 fa4bX7891 fa4cX793e fa4dX7949 fa4eX7948 fa4fX7950 fa50X7956 fa51X795d fa52X798d
fa53X798e fa54X7a40 fa55X7a81 fa56X7bc0 fa57X7df4 fa58X7e09 fa59X7e41 fa5aX7f72 fa5bX8005
fa5cX81ed fa5dX8279 fa5eX8279 fa5fX8457 fa60X8910 fa61X8996 fa62X8b01 fa63X8b39 fa64X8cd3
fa65X8d08 fa66X8fb6 fa67X9038 fa68X96e3 fa69X97ff fa6aX983b fa6bX6075 fa6cX242ee fa6dX8218
fa70X4e26 fa71X51b5 fa72X5168 fa73X4f80 fa74X5145 fa75X5180 fa76X52c7 fa77X52fa fa78X559d
fa79X5555 fa7aX5599 fa7bX55e2 fa7cX585a fa7dX58b3 fa7eX5944 fa7fX5954 fa80X5a62 fa81X5b28
fa82X5ed2 fa83X5ed9 fa84X5f69 fa85X5fad fa86X60d8 fa87X614e fa88X6108 fa89X618e fa8aX6160
fa8bX61f2 fa8cX6234 fa8dX63c4 fa8eX641c fa8fX6452 fa90X6556 fa91X6674 fa92X6717 fa93X671b
fa94X6756 fa95X6b79 fa96X6bba fa97X6d41 fa98X6edb fa99X6ecb fa9aX6f22 fa9bX701e fa9cX716e
fa9dX77a7 fa9eX7235 fa9fX72af faa0X732a faa1X7471 faa2X7506 faa3X753b faa4X761d faa5X761f
faa6X76ca faa7X76db faa8X76f4 faa9X774a faaaX7740 faabX78cc faacX7ab1 faadX7bc0 faaeX7c7b
faafX7d5b fab0X7df4 fab1X7f3e fab2X8005 fab3X8352 fab4X83ef fab5X8779 fab6X8941 fab7X8986
fab8X8996 fab9X8abf fabaX8af8 fabbX8acb fabcX8b01 fabdX8afe fabeX8aed fabfX8b39 fac0X8b8a
fac1X8d08 fac2X8f38 fac3X9072 fac4X9199 fac5X9276 fac6X967c fac7X96e3 fac8X9756 fac9X97db
facaX97ff facbX980b faccX983b facdX9b12 faceX9f9c facfX2284a fad0X22844 fad1X233d5 fad2X3b9d
fad3X4018 fad4X4039 fad5X25249 fad6X25cd0 fad7X27ed3 fad8X9f43 fad9X9f8e fb1dX5d9.5b4 fb1fX5f2.5b7
fb2aX5e9.5c1 fb2bX5e9.5c2 fb2cX5e9.5bc.5c1 fb2dX5e9.5bc.5c2 fb2eX5d0.5b7 fb2fX5d0.5b8 fb30X5d0.5bc
fb31X5d1.5bc fb32X5d2.5bc fb33X5d3.5bc fb34X5d4.5bc fb35X5d5.5bc fb36X5d6.5bc fb38X5d8.5bc
fb39X5d9.5bc fb3aX5da.5bc fb3bX5db.5bc fb3cX5dc.5bc fb3eX5de.5bc fb40X5e0.5bc fb41X5e1.5bc
fb43X5e3.5bc fb44X5e4.5bc fb46X5e6.5bc fb47X5e7.5bc fb48X5e8.5bc fb49X5e9.5bc fb4aX5ea.5bc
fb4bX5d5.5b9 fb4cX5d1.5bf fb4dX5db.5bf fb4eX5e4.5bf 105c9P105d2.307 105e4P105da.307
1109aP11099.110ba 1109cP1109b.110ba 110abP110a5.110ba 1112eP11131.11127 1112fP11132.11127
1134bP11347.1133e 1134cP11347.11357 11383P11382.113c9 11385P11384.113bb 1138eP1138b.113c2
11391P11390.113c9 113c5P113c2.113c2 113c7P113c2.113b8 113c8P113c2.113c9 114bbP114b9.114ba
114bcP114b9.114b0 114beP114b9.114bd 115baP115b8.115af 115bbP115b9.115af 11938P11935.11930
16121P1611e.1611e 16122P1611e.16129 16123P1611e.1611f 16124P16129.1611f 16125P1611e.16120
16126P16121.1611f 16127P16122.1611f 16128P16121.16120 16d68P16d67.16d67 16d69P16d63.16d67
16d6aP16d69.16d67 1d15eX1d157.1d165 1d15fX1d158.1d165 1d160X1d158.1d165.1d16e
1d161X1d158.1d165.1d16f 1d162X1d158.1d165.1d170 1d163X1d158.1d165.1d171 1d164X1d158.1d165.1d172
1d1bbX1d1b9.1d165 1d1bcX1d1ba.1d165 1d1bdX1d1b9.1d165.1d16e 1d1beX1d1ba.1d165.1d16e
1d1bfX1d1b9.1d165.1d16f 1d1c0X1d1ba.1d165.1d16f 2f800X4e3d 2f801X4e38 2f802X4e41 2f803X20122
2f804X4f60 2f805X4fae 2f806X4fbb 2f807X5002 2f808X507a 2f809X5099 2f80aX50e7 2f80bX50cf 2f80cX349e
2f80dX2063a 2f80eX514d 2f80fX5154 2f810X5164 2f811X5177 2f812X2051c 2f813X34b9 2f814X5167
2f815X518d 2f816X2054b 2f817X5197 2f818X51a4 2f819X4ecc 2f81aX51ac 2f81bX51b5 2f81cX291df
2f81dX51f5 2f81eX5203 2f81fX34df 2f820X523b 2f821X5246 2f822X5272 2f823X5277 2f824X3515 2f825X52c7
2f826X52c9 2f827X52e4 2f828X52fa 2f829X5305 2f82aX5306 2f82bX5317 2f82cX5349 2f82dX5351 2f82eX535a
2f82fX5373 2f830X537d 2f831X537f 2f832X537f 2f833X537f 2f834X20a2c 2f835X7070 2f836X53ca
2f837X53df 2f838X20b63 2f839X53eb 2f83aX53f1 2f83bX5406 2f83cX549e 2f83dX5438 2f83eX5448
2f83fX5468 2f840X54a2 2f841X54f6 2f842X5510 2f843X5553 2f844X5563 2f845X5584 2f846X5584 2f847X5599
2f848X55ab 2f849X55b3 2f84aX55c2 2f84bX5716 2f84cX5606 2f84dX5717 2f84eX5651 2f84fX5674 2f850X5207
2f851X58ee 2f852X57ce 2f853X57f4 2f854X580d 2f855X578b 2f856X5832 2f857X5831 2f858X58ac
2f859X214e4 2f85aX58f2 2f85bX58f7 2f85cX5906 2f85dX591a 2f85eX5922 2f85fX5962 2f860X216a8
2f861X216ea 2f862X59ec 2f863X5a1b 2f864X5a27 2f865X59d8 2f866X5a66 2f867X36ee 2f868X36fc
2f869X5b08 2f86aX5b3e 2f86bX5b3e 2f86cX219c8 2f86dX5bc3 2f86eX5bd8 2f86fX5be7 2f870X5bf3
2f871X21b18 2f872X5bff 2f873X5c06 2f874X5f53 2f875X5c22 2f876X3781 2f877X5c60 2f878X5c6e
2f879X5cc0 2f87aX5c8d 2f87bX21de4 2f87cX5d43 2f87dX21de6 2f87eX5d6e 2f87fX5d6b 2f880X5d7c
2f881X5de1 2f882X5de2 2f883X382f 2f884X5dfd 2f885X5e28 2f886X5e3d 2f887X5e69 2f888X3862
2f889X22183 2f88aX387c 2f88bX5eb0 2f88cX5eb3 2f88dX5eb6 2f88eX5eca 2f88fX2a392 2f890X5efe
2f891X22331 2f892X22331 2f893X8201 2f894X5f22 2f895X5f22 2f896X38c7 2f897X232b8 2f898X261da
2f899X5f62 2f89aX5f6b 2f89bX38e3 2f89cX5f9a 2f89dX5fcd 2f89eX5fd7 2f89fX5ff9 2f8a0X6081 2f8a1X393a
2f8a2X391c 2f8a3X6094 2f8a4X226d4 2f8a5X60c7 2f8a6X6148 2f8a7X614c 2f8a8X614e 2f8a9X614c
2f8aaX617a 2f8abX618e 2f8acX61b2 2f8adX61a4 2f8aeX61af 2f8afX61de 2f8b0X61f2 2f8b1X61f6 2f8b2X6210
2f8b3X621b 2f8b4X625d 2f8b5X62b1 2f8b6X62d4 2f8b7X6350 2f8b8X22b0c 2f8b9X633d 2f8baX62fc
2f8bbX6368 2f8bcX6383 2f8bdX63e4 2f8beX22bf1 2f8bfX6422 2f8c0X63c5 2f8c1X63a9 2f8c2X3a2e
2f8c3X6469 2f8c4X647e 2f8c5X649d 2f8c6X6477 2f8c7X3a6c 2f8c8X654f 2f8c9X656c 2f8caX2300a
2f8cbX65e3 2f8ccX66f8 2f8cdX6649 2f8ceX3b19 2f8cfX6691 2f8d0X3b08 2f8d1X3ae4 2f8d2X5192 2f8d3X5195
2f8d4X6700 2f8d5X669c 2f8d6X80ad 2f8d7X43d9 2f8d8X6717 2f8d9X671b 2f8daX6721 2f8dbX675e 2f8dcX6753
2f8ddX233c3 2f8deX3b49 2f8dfX67fa 2f8e0X6785 2f8e1X6852 2f8e2X6885 2f8e3X2346d 2f8e4X688e
2f8e5X681f 2f8e6X6914 2f8e7X3b9d 2f8e8X6942 2f8e9X69a3 2f8eaX69ea 2f8ebX6aa8 2f8ecX236a3
2f8edX6adb 2f8eeX3c18 2f8efX6b21 2f8f0X238a7 2f8f1X6b54 2f8f2X3c4e 2f8f3X6b72 2f8f4X6b9f
2f8f5X6bba 2f8f6X6bbb 2f8f7X23a8d 2f8f8X21d0b 2f8f9X23afa 2f8faX6c4e 2f8fbX23cbc 2f8fcX6cbf
2f8fdX6ccd 2f8feX6c67 2f8ffX6d16 2f900X6d3e 2f901X6d77 2f902X6d41 2f903X6d69 2f904X6d78 2f905X6d85
2f906X23d1e 2f907X6d34 2f908X6e2f 2f909X6e6e 2f90aX3d33 2f90bX6ecb 2f90cX6ec7 2f90dX23ed1
2f90eX6df9 2f90fX6f6e 2f910X23f5e 2f911X23f8e 2f912X6fc6 2f913X7039 2f914X701e 2f915X701b
2f916X3d96 2f917X704a 2f918X707d 2f919X7077 2f91aX70ad 2f91bX20525 2f91cX7145 2f91dX24263
2f91eX719c 2f91fX243ab 2f920X7228 2f921X7235 2f922X7250 2f923X24608 2f924X7280 2f925X7295
2f926X24735 2f927X24814 2f928X737a 2f929X738b 2f92aX3eac 2f92bX73a5 2f92cX3eb8 2f92dX3eb8
2f92eX7447 2f92fX745c 2f930X7471 2f931X7485 2f932X74ca 2f933X3f1b 2f934X7524 2f935X24c36
2f936X753e 2f937X24c92 2f938X7570 2f939X2219f 2f93aX7610 2f93bX24fa1 2f93cX24fb8 2f93dX25044
2f93eX3ffc 2f93fX4008 2f940X76f4 2f941X250f3 2f942X250f2 2f943X25119 2f944X25133 2f945X771e
2f946X771f 2f947X771f 2f948X774a 2f949X4039 2f94aX778b 2f94bX4046 2f94cX4096 2f94dX2541d
2f94eX784e 2f94fX788c 2f950X78cc 2f951X40e3 2f952X25626 2f953X7956 2f954X2569a 2f955X256c5
2f956X798f 2f957X79eb 2f958X412f 2f959X7a40 2f95aX7a4a 2f95bX7a4f 2f95cX2597c 2f95dX25aa7
2f95eX25aa7 2f95fX7aee 2f960X4202 2f961X25bab 2f962X7bc6 2f963X7bc9 2f964X4227 2f965X25c80
2f966X7cd2 2f967X42a0 2f968X7ce8 2f969X7ce3 2f96aX7d00 2f96bX25f86 2f96cX7d63 2f96dX4301
2f96eX7dc7 2f96fX7e02 2f970X7e45 2f971X4334 2f972X26228 2f973X26247 2f974X4359 2f975X262d9
2f976X7f7a 2f977X2633e 2f978X7f95 2f979X7ffa 2f97aX8005 2f97bX264da 2f97cX26523 2f97dX8060
2f97eX265a8 2f97fX8070 2f980X2335f 2f981X43d5 2f982X80b2 2f983X8103 2f984X440b 2f985X813e
2f986X5ab5 2f987X267a7 2f988X267b5 2f989X23393 2f98aX2339c 2f98bX8201 2f98cX8204 2f98dX8f9e
2f98eX446b 2f98fX8291 2f990X828b 2f991X829d 2f992X52b3 2f993X82b1 2f994X82b3 2f995X82bd 2f996X82e6
2f997X26b3c 2f998X82e5 2f999X831d 2f99aX8363 2f99bX83ad 2f99cX8323 2f99dX83bd 2f99eX83e7
2f99fX8457 2f9a0X8353 2f9a1X83ca 2f9a2X83cc 2f9a3X83dc 2f9a4X26c36 2f9a5X26d6b 2f9a6X26cd5
2f9a7X452b 2f9a8X84f1 2f9a9X84f3 2f9aaX8516 2f9abX273ca 2f9acX8564 2f9adX26f2c 2f9aeX455d
2f9afX4561 2f9b0X26fb1 2f9b1X270d2 2f9b2X456b 2f9b3X8650 2f9b4X865c 2f9b5X8667 2f9b6X8669
2f9b7X86a9 2f9b8X8688 2f9b9X870e 2f9baX86e2 2f9bbX8779 2f9bcX8728 2f9bdX876b 2f9beX8786 2f9bfX45d7
2f9c0X87e1 2f9c1X8801 2f9c2X45f9 2f9c3X8860 2f9c4X8863 2f9c5X27667 2f9c6X88d7 2f9c7X88de
2f9c8X4635 2f9c9X88fa 2f9caX34bb 2f9cbX278ae 2f9ccX27966 2f9cdX46be 2f9ceX46c7 2f9cfX8aa0
2f9d0X8aed 2f9d1X8b8a 2f9d2X8c55 2f9d3X27ca8 2f9d4X8cab 2f9d5X8cc1 2f9d6X8d1b 2f9d7X8d77
2f9d8X27f2f 2f9d9X20804 2f9daX8dcb 2f9dbX8dbc 2f9dcX8df0 2f9ddX208de 2f9deX8ed4 2f9dfX8f38
2f9e0X285d2 2f9e1X285ed 2f9e2X9094 2f9e3X90f1 2f9e4X9111 2f9e5X2872e 2f9e6X911b 2f9e7X9238
2f9e8X92d7 2f9e9X92d8 2f9eaX927c 2f9ebX93f9 2f9ecX9415 2f9edX28bfa 2f9eeX958b 2f9efX4995
2f9f0X95b7 2f9f1X28d77 2f9f2X49e6 2f9f3X96c3 2f9f4X5db2 2f9f5X9723 2f9f6X29145 2f9f7X2921a
2f9f8X4a6e 2f9f9X4a76 2f9faX97e0 2f9fbX2940a 2f9fcX4ab2 2f9fdX29496 2f9feX980b 2f9ffX980b
2fa00X9829 2fa01X295b6 2fa02X98e2 2fa03X4b33 2fa04X9929 2fa05X99a7 2fa06X99c2 2fa07X99fe
2fa08X4bce 2fa09X29b30 2fa0aX9b12 2fa0bX9c40 2fa0cX9cfd 2fa0dX4cce 2fa0eX4ced 2fa0fX9d67
2fa10X2a0ce 2fa11X4cf8 2fa12X2a105 2fa13X2a20e 2fa14X2a291 2fa15X9ebb 2fa16X4d56 2fa17X9ef9
2fa18X9efe 2fa19X9f05 2fa1aX9f0f 2fa1bX9f16 2fa1cX9f3b 2fa1dX2a600"

/-- Canonical combining classes other than zero, as first and last code point and class. -/
def combiningClassRuns : List (Nat × Nat × Nat) :=
  [(0x0300, 0x0314, 230), (0x0315, 0x0315, 232), (0x0316, 0x0319, 220), (0x031A, 0x031A, 232),
  (0x031B, 0x031B, 216), (0x031C, 0x0320, 220), (0x0321, 0x0322, 202), (0x0323, 0x0326, 220),
  (0x0327, 0x0328, 202), (0x0329, 0x0333, 220), (0x0334, 0x0338, 1), (0x0339, 0x033C, 220),
  (0x033D, 0x0344, 230), (0x0345, 0x0345, 240), (0x0346, 0x0346, 230), (0x0347, 0x0349, 220),
  (0x034A, 0x034C, 230), (0x034D, 0x034E, 220), (0x0350, 0x0352, 230), (0x0353, 0x0356, 220),
  (0x0357, 0x0357, 230), (0x0358, 0x0358, 232), (0x0359, 0x035A, 220), (0x035B, 0x035B, 230),
  (0x035C, 0x035C, 233), (0x035D, 0x035E, 234), (0x035F, 0x035F, 233), (0x0360, 0x0361, 234),
  (0x0362, 0x0362, 233), (0x0363, 0x036F, 230), (0x0483, 0x0487, 230), (0x0591, 0x0591, 220),
  (0x0592, 0x0595, 230), (0x0596, 0x0596, 220), (0x0597, 0x0599, 230), (0x059A, 0x059A, 222),
  (0x059B, 0x059B, 220), (0x059C, 0x05A1, 230), (0x05A2, 0x05A7, 220), (0x05A8, 0x05A9, 230),
  (0x05AA, 0x05AA, 220), (0x05AB, 0x05AC, 230), (0x05AD, 0x05AD, 222), (0x05AE, 0x05AE, 228),
  (0x05AF, 0x05AF, 230), (0x05B0, 0x05B0, 10), (0x05B1, 0x05B1, 11), (0x05B2, 0x05B2, 12),
  (0x05B3, 0x05B3, 13), (0x05B4, 0x05B4, 14), (0x05B5, 0x05B5, 15), (0x05B6, 0x05B6, 16),
  (0x05B7, 0x05B7, 17), (0x05B8, 0x05B8, 18), (0x05B9, 0x05BA, 19), (0x05BB, 0x05BB, 20),
  (0x05BC, 0x05BC, 21), (0x05BD, 0x05BD, 22), (0x05BF, 0x05BF, 23), (0x05C1, 0x05C1, 24),
  (0x05C2, 0x05C2, 25), (0x05C4, 0x05C4, 230), (0x05C5, 0x05C5, 220), (0x05C7, 0x05C7, 18),
  (0x0610, 0x0617, 230), (0x0618, 0x0618, 30), (0x0619, 0x0619, 31), (0x061A, 0x061A, 32),
  (0x064B, 0x064B, 27), (0x064C, 0x064C, 28), (0x064D, 0x064D, 29), (0x064E, 0x064E, 30),
  (0x064F, 0x064F, 31), (0x0650, 0x0650, 32), (0x0651, 0x0651, 33), (0x0652, 0x0652, 34),
  (0x0653, 0x0654, 230), (0x0655, 0x0656, 220), (0x0657, 0x065B, 230), (0x065C, 0x065C, 220),
  (0x065D, 0x065E, 230), (0x065F, 0x065F, 220), (0x0670, 0x0670, 35), (0x06D6, 0x06DC, 230),
  (0x06DF, 0x06E2, 230), (0x06E3, 0x06E3, 220), (0x06E4, 0x06E4, 230), (0x06E7, 0x06E8, 230),
  (0x06EA, 0x06EA, 220), (0x06EB, 0x06EC, 230), (0x06ED, 0x06ED, 220), (0x0711, 0x0711, 36),
  (0x0730, 0x0730, 230), (0x0731, 0x0731, 220), (0x0732, 0x0733, 230), (0x0734, 0x0734, 220),
  (0x0735, 0x0736, 230), (0x0737, 0x0739, 220), (0x073A, 0x073A, 230), (0x073B, 0x073C, 220),
  (0x073D, 0x073D, 230), (0x073E, 0x073E, 220), (0x073F, 0x0741, 230), (0x0742, 0x0742, 220),
  (0x0743, 0x0743, 230), (0x0744, 0x0744, 220), (0x0745, 0x0745, 230), (0x0746, 0x0746, 220),
  (0x0747, 0x0747, 230), (0x0748, 0x0748, 220), (0x0749, 0x074A, 230), (0x07EB, 0x07F1, 230),
  (0x07F2, 0x07F2, 220), (0x07F3, 0x07F3, 230), (0x07FD, 0x07FD, 220), (0x0816, 0x0819, 230),
  (0x081B, 0x0823, 230), (0x0825, 0x0827, 230), (0x0829, 0x082D, 230), (0x0859, 0x085B, 220),
  (0x0897, 0x0898, 230), (0x0899, 0x089B, 220), (0x089C, 0x089F, 230), (0x08CA, 0x08CE, 230),
  (0x08CF, 0x08D3, 220), (0x08D4, 0x08E1, 230), (0x08E3, 0x08E3, 220), (0x08E4, 0x08E5, 230),
  (0x08E6, 0x08E6, 220), (0x08E7, 0x08E8, 230), (0x08E9, 0x08E9, 220), (0x08EA, 0x08EC, 230),
  (0x08ED, 0x08EF, 220), (0x08F0, 0x08F0, 27), (0x08F1, 0x08F1, 28), (0x08F2, 0x08F2, 29),
  (0x08F3, 0x08F5, 230), (0x08F6, 0x08F6, 220), (0x08F7, 0x08F8, 230), (0x08F9, 0x08FA, 220),
  (0x08FB, 0x08FF, 230), (0x093C, 0x093C, 7), (0x094D, 0x094D, 9), (0x0951, 0x0951, 230),
  (0x0952, 0x0952, 220), (0x0953, 0x0954, 230), (0x09BC, 0x09BC, 7), (0x09CD, 0x09CD, 9),
  (0x09FE, 0x09FE, 230), (0x0A3C, 0x0A3C, 7), (0x0A4D, 0x0A4D, 9), (0x0ABC, 0x0ABC, 7),
  (0x0ACD, 0x0ACD, 9), (0x0B3C, 0x0B3C, 7), (0x0B4D, 0x0B4D, 9), (0x0BCD, 0x0BCD, 9),
  (0x0C3C, 0x0C3C, 7), (0x0C4D, 0x0C4D, 9), (0x0C55, 0x0C55, 84), (0x0C56, 0x0C56, 91),
  (0x0CBC, 0x0CBC, 7), (0x0CCD, 0x0CCD, 9), (0x0D3B, 0x0D3C, 9), (0x0D4D, 0x0D4D, 9),
  (0x0DCA, 0x0DCA, 9), (0x0E38, 0x0E39, 103), (0x0E3A, 0x0E3A, 9), (0x0E48, 0x0E4B, 107),
  (0x0EB8, 0x0EB9, 118), (0x0EBA, 0x0EBA, 9), (0x0EC8, 0x0ECB, 122), (0x0F18, 0x0F19, 220),
  (0x0F35, 0x0F35, 220), (0x0F37, 0x0F37, 220), (0x0F39, 0x0F39, 216), (0x0F71, 0x0F71, 129),
  (0x0F72, 0x0F72, 130), (0x0F74, 0x0F74, 132), (0x0F7A, 0x0F7D, 130), (0x0F80, 0x0F80, 130),
  (0x0F82, 0x0F83, 230), (0x0F84, 0x0F84, 9), (0x0F86, 0x0F87, 230), (0x0FC6, 0x0FC6, 220),
  (0x1037, 0x1037, 7), (0x1039, 0x103A, 9), (0x108D, 0x108D, 220), (0x135D, 0x135F, 230),
  (0x1714, 0x1715, 9), (0x1734, 0x1734, 9), (0x17D2, 0x17D2, 9), (0x17DD, 0x17DD, 230),
  (0x18A9, 0x18A9, 228), (0x1939, 0x1939, 222), (0x193A, 0x193A, 230), (0x193B, 0x193B, 220),
  (0x1A17, 0x1A17, 230), (0x1A18, 0x1A18, 220), (0x1A60, 0x1A60, 9), (0x1A75, 0x1A7C, 230),
  (0x1A7F, 0x1A7F, 220), (0x1AB0, 0x1AB4, 230), (0x1AB5, 0x1ABA, 220), (0x1ABB, 0x1ABC, 230),
  (0x1ABD, 0x1ABD, 220), (0x1ABF, 0x1AC0, 220), (0x1AC1, 0x1AC2, 230), (0x1AC3, 0x1AC4, 220),
  (0x1AC5, 0x1AC9, 230), (0x1ACA, 0x1ACA, 220), (0x1ACB, 0x1ADC, 230), (0x1ADD, 0x1ADD, 220),
  (0x1AE0, 0x1AE5, 230), (0x1AE6, 0x1AE6, 220), (0x1AE7, 0x1AEA, 230), (0x1AEB, 0x1AEB, 234),
  (0x1B34, 0x1B34, 7), (0x1B44, 0x1B44, 9), (0x1B6B, 0x1B6B, 230), (0x1B6C, 0x1B6C, 220),
  (0x1B6D, 0x1B73, 230), (0x1BAA, 0x1BAB, 9), (0x1BE6, 0x1BE6, 7), (0x1BF2, 0x1BF3, 9),
  (0x1C37, 0x1C37, 7), (0x1CD0, 0x1CD2, 230), (0x1CD4, 0x1CD4, 1), (0x1CD5, 0x1CD9, 220),
  (0x1CDA, 0x1CDB, 230), (0x1CDC, 0x1CDF, 220), (0x1CE0, 0x1CE0, 230), (0x1CE2, 0x1CE8, 1),
  (0x1CED, 0x1CED, 220), (0x1CF4, 0x1CF4, 230), (0x1CF8, 0x1CF9, 230), (0x1DC0, 0x1DC1, 230),
  (0x1DC2, 0x1DC2, 220), (0x1DC3, 0x1DC9, 230), (0x1DCA, 0x1DCA, 220), (0x1DCB, 0x1DCC, 230),
  (0x1DCD, 0x1DCD, 234), (0x1DCE, 0x1DCE, 214), (0x1DCF, 0x1DCF, 220), (0x1DD0, 0x1DD0, 202),
  (0x1DD1, 0x1DF5, 230), (0x1DF6, 0x1DF6, 232), (0x1DF7, 0x1DF8, 228), (0x1DF9, 0x1DF9, 220),
  (0x1DFA, 0x1DFA, 218), (0x1DFB, 0x1DFB, 230), (0x1DFC, 0x1DFC, 233), (0x1DFD, 0x1DFD, 220),
  (0x1DFE, 0x1DFE, 230), (0x1DFF, 0x1DFF, 220), (0x20D0, 0x20D1, 230), (0x20D2, 0x20D3, 1),
  (0x20D4, 0x20D7, 230), (0x20D8, 0x20DA, 1), (0x20DB, 0x20DC, 230), (0x20E1, 0x20E1, 230),
  (0x20E5, 0x20E6, 1), (0x20E7, 0x20E7, 230), (0x20E8, 0x20E8, 220), (0x20E9, 0x20E9, 230),
  (0x20EA, 0x20EB, 1), (0x20EC, 0x20EF, 220), (0x20F0, 0x20F0, 230), (0x2CEF, 0x2CF1, 230),
  (0x2D7F, 0x2D7F, 9), (0x2DE0, 0x2DFF, 230), (0x302A, 0x302A, 218), (0x302B, 0x302B, 228),
  (0x302C, 0x302C, 232), (0x302D, 0x302D, 222), (0x302E, 0x302F, 224), (0x3099, 0x309A, 8),
  (0xA66F, 0xA66F, 230), (0xA674, 0xA67D, 230), (0xA69E, 0xA69F, 230), (0xA6F0, 0xA6F1, 230),
  (0xA806, 0xA806, 9), (0xA82C, 0xA82C, 9), (0xA8C4, 0xA8C4, 9), (0xA8E0, 0xA8F1, 230),
  (0xA92B, 0xA92D, 220), (0xA953, 0xA953, 9), (0xA9B3, 0xA9B3, 7), (0xA9C0, 0xA9C0, 9),
  (0xAAB0, 0xAAB0, 230), (0xAAB2, 0xAAB3, 230), (0xAAB4, 0xAAB4, 220), (0xAAB7, 0xAAB8, 230),
  (0xAABE, 0xAABF, 230), (0xAAC1, 0xAAC1, 230), (0xAAF6, 0xAAF6, 9), (0xABED, 0xABED, 9),
  (0xFB1E, 0xFB1E, 26), (0xFE20, 0xFE26, 230), (0xFE27, 0xFE2D, 220), (0xFE2E, 0xFE2F, 230),
  (0x101FD, 0x101FD, 220), (0x102E0, 0x102E0, 220), (0x10376, 0x1037A, 230),
  (0x10A0D, 0x10A0D, 220), (0x10A0F, 0x10A0F, 230), (0x10A38, 0x10A38, 230), (0x10A39, 0x10A39, 1),
  (0x10A3A, 0x10A3A, 220), (0x10A3F, 0x10A3F, 9), (0x10AE5, 0x10AE5, 230), (0x10AE6, 0x10AE6, 220),
  (0x10D24, 0x10D27, 230), (0x10D69, 0x10D6D, 230), (0x10EAB, 0x10EAC, 230),
  (0x10EFA, 0x10EFB, 220), (0x10EFD, 0x10EFF, 220), (0x10F46, 0x10F47, 220),
  (0x10F48, 0x10F4A, 230), (0x10F4B, 0x10F4B, 220), (0x10F4C, 0x10F4C, 230),
  (0x10F4D, 0x10F50, 220), (0x10F82, 0x10F82, 230), (0x10F83, 0x10F83, 220),
  (0x10F84, 0x10F84, 230), (0x10F85, 0x10F85, 220), (0x11046, 0x11046, 9), (0x11070, 0x11070, 9),
  (0x1107F, 0x1107F, 9), (0x110B9, 0x110B9, 9), (0x110BA, 0x110BA, 7), (0x11100, 0x11102, 230),
  (0x11133, 0x11134, 9), (0x11173, 0x11173, 7), (0x111C0, 0x111C0, 9), (0x111CA, 0x111CA, 7),
  (0x11235, 0x11235, 9), (0x11236, 0x11236, 7), (0x112E9, 0x112E9, 7), (0x112EA, 0x112EA, 9),
  (0x1133B, 0x1133C, 7), (0x1134D, 0x1134D, 9), (0x11366, 0x1136C, 230), (0x11370, 0x11374, 230),
  (0x113CE, 0x113D0, 9), (0x11442, 0x11442, 9), (0x11446, 0x11446, 7), (0x1145E, 0x1145E, 230),
  (0x114C2, 0x114C2, 9), (0x114C3, 0x114C3, 7), (0x115BF, 0x115BF, 9), (0x115C0, 0x115C0, 7),
  (0x1163F, 0x1163F, 9), (0x116B6, 0x116B6, 9), (0x116B7, 0x116B7, 7), (0x1172B, 0x1172B, 9),
  (0x11839, 0x11839, 9), (0x1183A, 0x1183A, 7), (0x1193D, 0x1193E, 9), (0x11943, 0x11943, 7),
  (0x119E0, 0x119E0, 9), (0x11A34, 0x11A34, 9), (0x11A47, 0x11A47, 9), (0x11A99, 0x11A99, 9),
  (0x11C3F, 0x11C3F, 9), (0x11D42, 0x11D42, 7), (0x11D44, 0x11D45, 9), (0x11D97, 0x11D97, 9),
  (0x11F41, 0x11F42, 9), (0x1612F, 0x1612F, 9), (0x16AF0, 0x16AF4, 1), (0x16B30, 0x16B36, 230),
  (0x16FF0, 0x16FF1, 6), (0x1BC9E, 0x1BC9E, 1), (0x1D165, 0x1D166, 216), (0x1D167, 0x1D169, 1),
  (0x1D16D, 0x1D16D, 226), (0x1D16E, 0x1D172, 216), (0x1D17B, 0x1D182, 220),
  (0x1D185, 0x1D189, 230), (0x1D18A, 0x1D18B, 220), (0x1D1AA, 0x1D1AD, 230),
  (0x1D242, 0x1D244, 230), (0x1E000, 0x1E006, 230), (0x1E008, 0x1E018, 230),
  (0x1E01B, 0x1E021, 230), (0x1E023, 0x1E024, 230), (0x1E026, 0x1E02A, 230),
  (0x1E08F, 0x1E08F, 230), (0x1E130, 0x1E136, 230), (0x1E2AE, 0x1E2AE, 230),
  (0x1E2EC, 0x1E2EF, 230), (0x1E4EC, 0x1E4ED, 232), (0x1E4EE, 0x1E4EE, 220),
  (0x1E4EF, 0x1E4EF, 230), (0x1E5EE, 0x1E5EE, 230), (0x1E5EF, 0x1E5EF, 220),
  (0x1E6E3, 0x1E6E3, 230), (0x1E6E6, 0x1E6E6, 230), (0x1E6EE, 0x1E6EF, 230),
  (0x1E6F5, 0x1E6F5, 230), (0x1E8D0, 0x1E8D6, 220), (0x1E944, 0x1E949, 230), (0x1E94A, 0x1E94A, 7)]

end TorrentRemote.Unicode
